import Chip8.Proofs.Runs

/-!
# The call stack as a list

Seen from outside, a call stack is a list of at most sixteen addresses: `CallStack.perform` and
`CallStack.performList` give the same responses and leave the same addresses. The slots are the
representation. Those below the depth hold the list, and those above it may hold anything, as a pop
leaves its address behind and a later push writes over it. One lemma says that an operation respects
this view (`CallStack.perform_eq_performList`); by induction so do all sequences of operations
(`CallStack.trace_eq_listTrace`), and what the view does not show never matters. An operation that
is refused leaves even the slots as they were (`CallStack.perform_of_refused`).
-/

namespace Chip8

namespace CallStack

/-! ## Operations -/

/-- Something to do with a call stack. -/
inductive Operation where
  /-- Put an address on top. -/
  | push (a : Address)
  /-- Take the top address off. -/
  | pop

/-- What an operation gives back. -/
inductive Response where
  /-- The address was put on top. -/
  | pushed
  /-- This address was taken off. -/
  | popped (a : Address)
  /-- Nothing was done. -/
  | refused
deriving DecidableEq

/-- The response to an operation, and the call stack that it leaves. -/
def perform (s : CallStack) : Operation → Response × CallStack
  | .push a =>
    match (push a).run s with
    | .ok _ s' => (.pushed, s')
    | .error _ s' => (.refused, s')
  | .pop =>
    match pop.run s with
    | .ok a s' => (.popped a, s')
    | .error _ s' => (.refused, s')

/-- The call stack after some operations. -/
def after (s : CallStack) (operations : List Operation) : CallStack :=
  operations.foldl (fun s o => (s.perform o).2) s

/-- What shows of some operations: the response to each, and the addresses in use after it. -/
def trace (s : CallStack) : List Operation → List (Response × List Address)
  | [] => []
  | o :: os => ((s.perform o).1, (s.perform o).2.addresses) :: (s.perform o).2.trace os

/-- The response to an operation on a plain list that has room for sixteen addresses, and the list
after it. -/
def performList (l : List Address) : Operation → Response × List Address
  | .push a => if l.length < capacity then (.pushed, l ++ [a]) else (.refused, l)
  | .pop =>
    match l.getLast? with
    | some a => (.popped a, l.dropLast)
    | none => (.refused, l)

/-- The list after some operations. -/
def listAfter (l : List Address) (operations : List Operation) : List Address :=
  operations.foldl (fun l o => (performList l o).2) l

/-- The response to each of some operations on a list, and the list after it. -/
def listTrace (l : List Address) : List Operation → List (Response × List Address)
  | [] => []
  | o :: os => performList l o :: listTrace (performList l o).2 os

@[simp] theorem after_nil (s : CallStack) : s.after [] = s := rfl

@[simp] theorem after_cons (s : CallStack) (o : Operation) (os : List Operation) :
    s.after (o :: os) = (s.perform o).2.after os := rfl

theorem after_append (s : CallStack) (os os' : List Operation) :
    s.after (os ++ os') = (s.after os).after os' :=
  List.foldl_append

theorem perform_push_of_some {s s' : CallStack} {a : Address} (h : s.push? a = some s') :
    s.perform (.push a) = (.pushed, s') := by
  rw [perform, run_push_eq, h]

theorem perform_pop_of_some {s s' : CallStack} {a : Address} (h : s.pop? = some (a, s')) :
    s.perform .pop = (.popped a, s') := by
  rw [perform, run_pop_eq, h]

/-- A push that finds no free slot leaves the call stack as it was. -/
theorem perform_push_of_none {s : CallStack} {a : Address} (h : s.push? a = none) :
    s.perform (.push a) = (.refused, s) := by
  rw [perform, run_push_eq, h]

/-- A pop that finds no slot in use leaves the call stack as it was. -/
theorem perform_pop_of_none {s : CallStack} (h : s.pop? = none) :
    s.perform .pop = (.refused, s) := by
  rw [perform, run_pop_eq, h]

/-- An operation that is refused changes nothing, not even a slot that is not in use. -/
theorem perform_of_refused {s : CallStack} {o : Operation} (h : (s.perform o).1 = .refused) :
    (s.perform o).2 = s := by
  cases o with
  | push a =>
    cases hpush : s.push? a with
    | none => rw [perform_push_of_none hpush]
    | some s' =>
      rw [perform_push_of_some hpush] at h
      cases h
  | pop =>
    rcases hpop : s.pop? with _ | ⟨a, s'⟩
    · rw [perform_pop_of_none hpop]
    · rw [perform_pop_of_some hpop] at h
      cases h

/-! ## The view of a call stack -/

/-- An operation responds as it does on the list of the addresses in use, and leaves the list that
it leaves there. -/
theorem perform_eq_performList (s : CallStack) (o : Operation) :
    ((s.perform o).1, (s.perform o).2.addresses) = performList s.addresses o := by
  cases o with
  | push a =>
    cases hpush : s.push? a with
    | none =>
      have hfull : ¬ s.addresses.length < capacity := by
        rw [(push?_eq_none_iff s a).1 hpush]
        decide
      rw [perform_push_of_none hpush, performList, if_neg hfull]
    | some s' =>
      obtain ⟨hfree, haddresses⟩ := addresses_of_push? hpush
      have hroom : s.addresses.length < capacity := hfree
      rw [perform_push_of_some hpush, performList, if_pos hroom, haddresses]
  | pop =>
    rcases hpop : s.pop? with _ | ⟨a, s'⟩
    · rw [perform_pop_of_none hpop, (pop?_eq_none_iff s).1 hpop]
      rfl
    · rw [perform_pop_of_some hpop, performList, addresses_of_pop? hpop, List.getLast?_concat,
        List.dropLast_concat]

/-- What shows of some operations is what shows of them on the list of the addresses in use. -/
theorem trace_eq_listTrace (operations : List Operation) (s : CallStack) :
    s.trace operations = listTrace s.addresses operations := by
  induction operations generalizing s with
  | nil => rfl
  | cons o os ih => rw [trace, listTrace, ih, perform_eq_performList, ← perform_eq_performList]

/-- The addresses in use after some operations are the list after them. -/
theorem addresses_after (operations : List Operation) (s : CallStack) :
    (s.after operations).addresses = listAfter s.addresses operations := by
  induction operations generalizing s with
  | nil => rfl
  | cons o os ih =>
    have hstep : (s.perform o).2.addresses = (performList s.addresses o).2 :=
      congrArg Prod.snd (s.perform_eq_performList o)
    rw [after_cons, ih, hstep]
    rfl

/-- Call stacks with the same addresses in use cannot be told apart. -/
theorem trace_congr {s t : CallStack} (h : s.addresses = t.addresses)
    (operations : List Operation) : s.trace operations = t.trace operations := by
  rw [trace_eq_listTrace, trace_eq_listTrace, h]

/-- **A call stack is a bounded list.** Whatever is done to an empty call stack, each response is
the one that a list of at most sixteen addresses gives, and the addresses in use after each
operation are those of the list, the oldest first. An operation that is refused changes nothing that
shows at once or later. And what shows later depends on the addresses in use alone: a call stack
with the same ones, whatever its other slots hold, responds alike to everything. -/
theorem refines_bounded_list (operations : List Operation) :
    empty.trace operations = listTrace [] operations ∧
    (empty.after operations).addresses = listAfter [] operations ∧
    (∀ o, ((empty.after operations).perform o).1 = .refused →
      ((empty.after operations).perform o).2.addresses = (empty.after operations).addresses ∧
      ∀ later, ((empty.after operations).perform o).2.trace later =
        (empty.after operations).trace later) ∧
    ∀ s : CallStack, s.addresses = (empty.after operations).addresses →
      ∀ later, s.trace later = (empty.after operations).trace later := by
  refine ⟨trace_eq_listTrace operations empty, addresses_after operations empty,
    fun o hrefused => ?_, fun s hsame => trace_congr hsame⟩
  rw [perform_of_refused hrefused]
  exact ⟨rfl, fun _ => rfl⟩

/-- The seventeenth of seventeen pushes is refused and leaves no trace, and a push that was taken
back leaves its address in a slot, where nobody sees it. -/
theorem refines_bounded_list_seventeen :
    ∃ full popped low : CallStack,
      full.addresses = (List.range 16).map UInt16.ofNat ∧
      (full.perform (.push 0x10)).1 = .refused ∧
      (full.perform (.push 0x10)).2.trace [.pop, .push 0x11] = full.trace [.pop, .push 0x11] ∧
      popped = (full.perform .pop).2 ∧ low ≠ popped ∧
      low.trace [.push 0x12, .push 0x13, .pop] = popped.trace [.push 0x12, .push 0x13, .pop] := by
  let pushes (n : Nat) : List Operation := (List.range n).map fun i => .push (UInt16.ofNat i)
  obtain ⟨-, haddresses, hrefusal, -⟩ := refines_bounded_list (pushes 16)
  obtain ⟨-, -, -, hslots⟩ := refines_bounded_list (pushes 16 ++ [.pop])
  refine ⟨empty.after (pushes 16), empty.after (pushes 16 ++ [.pop]), empty.after (pushes 15),
    haddresses.trans (by decide +kernel), by decide +kernel,
    (hrefusal (.push 0x10) (by decide +kernel)).2 _, ?_, by decide +kernel, ?_⟩
  · rw [after_append, after_cons, after_nil]
  · exact hslots (empty.after (pushes 15)) (by decide +kernel) _

end CallStack

/-! ## The call stack of a machine -/

namespace Machine

variable {D K : Type} [Display D] [KeySource K] {m : Machine D K}

omit [KeySource K] in
/-- An instruction does one operation on the call stack, or none. -/
theorem Change.stack_eq {i : Instruction} {effect : Effect D K} (h : Change m i effect) :
    effect.machine.stack = m.stack ∨
      ∃ o, effect.machine.stack = (m.stack.perform o).2 := by
  cases h with
  | returned hpop => exact .inr ⟨.pop, by rw [CallStack.perform_pop_of_some hpop]⟩
  | called hpush => exact .inr ⟨.push m.pc, by rw [CallStack.perform_push_of_some hpush]⟩
  | skipped hi condition =>
    rw [skipIf_eq]
    exact .inl rfl
  | jumped | jumpedOffset | waited | stored | computed => exact .inl rfl

/-- The call stack of a machine, whatever the host does, has come about by operations on an empty
one. -/
theorem Reachable.exists_operations (h : m.Reachable) :
    ∃ operations, m.stack = CallStack.empty.after operations := by
  refine h.induction (P := fun m => ∃ operations, m.stack = CallStack.empty.after operations) ?_ ?_
  · intro config display keypad entropy
    exact ⟨[], rfl⟩
  · rintro m e ⟨operations, hstack⟩
    cases hprogram : e.program? with
    | some program =>
      obtain ⟨memory, -, hmachine⟩ := perform_of_program? hprogram m
      rw [hmachine]
      exact ⟨[], rfl⟩
    | none =>
      rcases executed?_cases hprogram m with ⟨word, effect, -, -, hexecute, hmachine⟩ |
        ⟨-, keypad, timers, pc, opcode, halted, hmachine⟩
      · rw [hmachine]
        rcases (execute_change hexecute).stack_eq with hsame | ⟨o, hoperation⟩
        · exact ⟨operations, hsame.trans hstack⟩
        · refine ⟨operations ++ [o], ?_⟩
          rw [CallStack.after_append, CallStack.after_cons, CallStack.after_nil, ← hstack]
          exact hoperation
      · rw [hmachine]
        exact ⟨operations, hstack⟩

end Machine

end Chip8
