/-!
# Operations in place

An operation that changes a state step by step, and that may fail on the way, is a program of the
monad `EStateM`: it ends with a result or with a fault, and either way with the state as far as it
has come. Nothing is taken back, so what a failure leaves depends on what the steps before it have
changed. `InPlace.Atomic` says of an operation that a failure leaves the state as it was; only then
does `InPlace.attempt`, for which a failure has no state at all, say everything about the operation
(`InPlace.Atomic.run_eq`).
-/

namespace Chip8.InPlace

variable {ε ε' σ τ α β : Type}

/-- Work on a part of the state. The part is put back as it was left, by a failure too. -/
def onPart (part : σ → τ) (replace : σ → τ → σ) (fault : ε' → ε) (x : EStateM ε' τ α) :
    EStateM ε σ α := fun s =>
  match x.run (part s) with
  | .ok a t => .ok a (replace s t)
  | .error e t => .error (fault e) (replace s t)

/-- Fail if something is wrong. What comes before this has been done, and what comes after has not.
-/
def refuseIf (wrong : Prop) [Decidable wrong] (fault : ε) : EStateM ε σ Unit :=
  if wrong then throw fault else pure ()

/-- An operation as a function: its result and the state it leaves, or its fault. -/
def attempt (x : EStateM ε σ α) (s : σ) : Except ε (α × σ) :=
  match x.run s with
  | .ok a s' => .ok (a, s')
  | .error e _ => .error e

/-- A failure leaves the state as it was. -/
def Atomic (x : EStateM ε σ α) : Prop := ∀ s e s', x.run s = .error e s' → s' = s

theorem run_refuseIf_bind {wrong : Prop} [Decidable wrong] (fault : ε) (next : Unit → EStateM ε σ α)
    (s : σ) :
    (refuseIf wrong fault >>= next).run s =
      if wrong then .error fault s else (next ()).run s := by
  rw [refuseIf]
  split <;> rfl

theorem run_lookup_bind (look : σ → Option β) (fault : ε) (next : β → EStateM ε σ α) (s : σ) :
    (do let b ← (look (← get)).getDM (throw fault); next b : EStateM ε σ α).run s =
      match look s with
      | some b => (next b).run s
      | none => .error fault s := by
  rw [EStateM.run_bind, EStateM.run_get]
  dsimp only
  cases look s <;> rfl

/-- What follows on a failure finds the state as the failure left it. -/
theorem run_tryCatch (x : EStateM ε σ α) (next : ε → EStateM ε σ α) (s : σ) :
    (tryCatch x next).run s =
      match x.run s with
      | .ok a s' => .ok a s'
      | .error e s' => (next e).run s' := by
  have hresult (r : EStateM.Result ε σ α) :
      (tryCatch (fun _ => r : EStateM ε σ α) next).run s =
        match r with
        | .ok a s' => .ok a s'
        | .error e s' => (next e).run s' := by
    cases r <;> rfl
  exact hresult (x.run s)

namespace Atomic

variable {x : EStateM ε σ α}

/-- A change that cannot fail. -/
theorem modify (f : σ → σ) : Atomic (modify f : EStateM ε σ PUnit) := nofun

/-- A check before everything else. -/
theorem refuseIf_bind {wrong : Prop} [Decidable wrong] {fault : ε} {next : Unit → EStateM ε σ α}
    (h : Atomic (next ())) : Atomic (refuseIf wrong fault >>= next) := by
  intro s e s' hrun
  rw [run_refuseIf_bind] at hrun
  split at hrun
  · cases hrun
    rfl
  · exact h s e s' hrun

/-- A look at the state before everything else, for something that has to be there. -/
theorem lookup_bind {look : σ → Option β} {fault : ε} {next : β → EStateM ε σ α}
    (h : ∀ b, Atomic (next b)) :
    Atomic (do let b ← (look (← get)).getDM (throw fault); next b : EStateM ε σ α) := by
  intro s e s' hrun
  rw [run_lookup_bind] at hrun
  cases hlook : look s with
  | none =>
    rw [hlook] at hrun
    cases hrun
    rfl
  | some b =>
    rw [hlook] at hrun
    exact h b s e s' hrun

/-- An operation that leaves nothing half done is known by its function. -/
theorem run_eq (h : Atomic x) (s : σ) :
    x.run s =
      match attempt x s with
      | .ok (a, s') => .ok a s'
      | .error e => .error e s := by
  rw [attempt]
  cases hrun : x.run s with
  | ok a s' => rfl
  | error e s' => rw [h s e s' hrun]

/-- Work on a part leaves the whole as it was, if it fails and left the part so. -/
theorem run_onPart {x : EStateM ε' τ α} (h : Atomic x) {part : σ → τ} {replace : σ → τ → σ}
    (hreplace : ∀ s, replace s (part s) = s) (fault : ε' → ε) (s : σ) :
    (onPart part replace fault x).run s =
      match attempt x (part s) with
      | .ok (a, t) => .ok a (replace s t)
      | .error e => .error (fault e) s := by
  rw [EStateM.run, onPart, h.run_eq]
  cases attempt x (part s) with
  | ok p => rfl
  | error e =>
    dsimp only
    rw [hreplace]

end Atomic

end Chip8.InPlace
