import Chip8.Display.Bitmap
import Chip8.Proofs.Halting
import Chip8.Proofs.Waiting

/-!
# Straight-line code

A step that executes an instruction in place, that is without a jump, a call, a return or a wait,
brings the program counter forward by at least one instruction, and the increment never wraps around
because the instruction was inside memory (`straight_step`). Ticks, changes of the keypad and stores
into the program make no difference to that. So the program counter measures a stretch of a history
(`Straight`), a stretch without transfers and waits goes through memory once at most, and a machine
that is not stopped by a fault before halts behind the last place for an instruction.
-/

namespace Chip8.Machine

/-- How a step goes. -/
inductive Course where
  /-- It executes an instruction, and the program goes on behind it. -/
  | inPlace
  /-- It executes a jump, a call or a return. -/
  | transferred
  /-- It waits for a key. -/
  | waited
  /-- It finds the machine halted, or nothing to execute. -/
  | halted
  /-- It meets a fault. -/
  | failed
deriving DecidableEq

section

variable {D K : Type} [Display D] [KeySource K]

/-- How the next step goes. -/
def course (m : Machine D K) : Course :=
  match m.step.result with
  | .ok .executed =>
    if m.nextInstruction?.any Instruction.isTransfer then .transferred else .inPlace
  | .ok .awaitingKey => .waited
  | .ok .halted => .halted
  | .error _ => .failed

/-- How the steps of a history go, in order. -/
def courses (m : Machine D K) : List (Event K) → List Course
  | [] => []
  | e :: events =>
    if e.isStep then m.course :: (m.perform e).machine.courses events
    else (m.perform e).machine.courses events

/-- Every step has its course. -/
theorem length_courses (m : Machine D K) (events : List (Event K)) :
    (m.courses events).length = events.countP Event.isStep := by
  induction events generalizing m with
  | nil => rfl
  | cons e events ih =>
    rw [courses, List.countP_cons, ← ih (m.perform e).machine]
    split <;> rfl

end

/-! ## Stretches -/

/-- Steps that go in these ways, and none of which transfers or waits, take one machine to another.
-/
structure Straight {D K : Type} (m : Machine D K) (cs : List Course) (m' : Machine D K) : Prop where
  /-- Each instruction that is executed takes the program counter forward. -/
  pc_add_le : m.pc.toNat + 2 * cs.count .inPlace ≤ m'.pc.toNat
  /-- The instructions that are executed have their places in memory one after the other. -/
  fits : 0 < cs.count .inPlace → m.pc.toNat + 2 * cs.count .inPlace ≤ 4096
  /-- A machine is halted by a step that has not executed an instruction. -/
  halted_iff : m'.halted = true ↔ m.halted = true ∨ .halted ∈ cs ∨ .failed ∈ cs
  /-- A machine that halts without a fault has no place left for an instruction. -/
  past_end : m.halted = false → m'.halted = true → .failed ∉ cs → 0xFFE < m'.pc.toNat

namespace Straight

variable {D K : Type} {m m' m'' : Machine D K} {cs cs' : List Course}

/-- No step, no change of the program counter. -/
theorem nil (hpc : m'.pc = m.pc) (hhalted : m'.halted = m.halted) : Straight m [] m' where
  pc_add_le := by simp [hpc]
  fits := nofun
  halted_iff := by simp [hhalted]
  past_end hbefore hafter := by
    rw [hhalted, hbefore] at hafter
    cases hafter

/-- Two stretches, one after the other. -/
theorem append (h : Straight m cs m') (h' : Straight m' cs' m'') :
    Straight m (cs ++ cs') m'' where
  pc_add_le := by
    have := h.pc_add_le
    have := h'.pc_add_le
    rw [List.count_append]
    omega
  fits hpos := by
    rw [List.count_append] at hpos ⊢
    have hfirst := h.pc_add_le
    rcases Nat.eq_zero_or_pos (cs'.count .inPlace) with hzero | hsecond
    · have := h.fits (by omega)
      omega
    · have := h'.fits hsecond
      omega
  halted_iff := by
    rw [h'.halted_iff, h.halted_iff, List.mem_append, List.mem_append, or_assoc, or_or_or_comm]
  past_end hbefore hafter hfailed := by
    obtain ⟨hfirst, hsecond⟩ := not_or.1 (mt List.mem_append.2 hfailed)
    cases hmiddle : m'.halted with
    | true =>
      have := h.past_end hbefore hmiddle hfirst
      have := h'.pc_add_le
      omega
    | false => exact h'.past_end hmiddle hafter hsecond

end Straight

/-! ## One step -/

variable {D K : Type} [Display D] [KeySource K] {m : Machine D K}

/-- A step that neither transfers nor waits is a stretch of its own. -/
theorem straight_step (htransfer : m.course ≠ .transferred) (hwait : m.course ≠ .waited) :
    Straight m [m.course] m.step.machine := by
  rcases m.step_cases with ⟨hhalted, hstep⟩ | ⟨hruns, hnone, hstep⟩ |
    ⟨word, effect, hruns, hfetch, hexecute, hstep⟩ | ⟨word, fault, hruns, hfetch, -, hstep⟩
  · have hcourse : m.course = .halted := by rw [course, hstep]
    rw [hcourse, hstep]
    exact ⟨Nat.le_refl _, nofun, by simp [hhalted], fun hruns => by simp [hhalted] at hruns⟩
  · have hcourse : m.course = .halted := by rw [course, hstep]
    have hpast := (m.memory.fetch?_eq_none_iff m.pc).1 hnone
    rw [hcourse, hstep]
    exact ⟨Nat.le_refl _, nofun, by simp, fun _ _ _ => hpast⟩
  · have hchange := execute_change hexecute
    have hnext := nextInstruction?_of_fetch hruns hfetch
    have houtcome : effect.outcome = .executed := hchange.outcome.resolve_right fun houtcome =>
      hwait (by rw [course, hstep, houtcome])
    have hi : (Instruction.decode word).isTransfer = false := Bool.eq_false_iff.2 fun hi =>
      htransfer (by simp [course, hstep, houtcome, hnext, hi])
    have hcourse : m.course = .inPlace := by simp [course, hstep, houtcome, hnext, hi]
    have hhalted : effect.machine.halted = false := hchange.halted.trans hruns
    have hlt := Memory.lt_of_fetch? hfetch
    -- the instruction lies inside memory, so that not even a skip behind it wraps around
    have hfetched : m.pc.next.toNat = m.pc.toNat + 2 := toNat_next_of_fetch hfetch
    have hskipped : m.pc.next.next.toNat = m.pc.next.toNat + 2 := Address.toNat_next (by omega)
    have hpc : effect.machine.pc = m.pc.next ∨ effect.machine.pc = m.pc.next.next :=
      hchange.pc hi houtcome
    have hle : m.pc.toNat + 2 ≤ effect.machine.pc.toNat := by
      rcases hpc with hpc | hpc <;> rw [hpc] <;> omega
    rw [hcourse, hstep]
    exact ⟨hle, fun _ => show m.pc.toNat + 2 ≤ 4096 by omega, by simp [hruns, hhalted],
      fun _ hafter => by simp [hhalted] at hafter⟩
  · have hcourse : m.course = .failed := by rw [course, hstep]
    have hfetched : m.pc.next.toNat = m.pc.toNat + 2 := toNat_next_of_fetch hfetch
    rw [hcourse, hstep]
    refine ⟨?_, nofun, by simp, fun _ _ hfailed => absurd List.mem_cons_self hfailed⟩
    show m.pc.toNat ≤ m.pc.next.toNat
    omega

/-! ## Many steps -/

/-- The steps of a history without a new program are a stretch if none transfers or waits. -/
theorem straight_after (events : List (Event K)) (m : Machine D K)
    (hnone : ∀ e ∈ events, e.program? = none)
    (hcourses : ∀ c ∈ m.courses events, c ≠ .transferred ∧ c ≠ .waited) :
    Straight m (m.courses events) (m.after events) := by
  induction events generalizing m with
  | nil => exact .nil rfl rfl
  | cons e events ih =>
    have hrest := ih (m.perform e).machine fun e' he' => hnone e' (List.mem_cons_of_mem e he')
    have hother (hpc : (m.perform e).machine.pc = m.pc)
        (hhalted : (m.perform e).machine.halted = m.halted) (hstep : e.isStep = false) :
        Straight m (m.courses (e :: events)) (m.after (e :: events)) := by
      rw [courses, hstep] at hcourses ⊢
      exact (Straight.nil hpc hhalted).append (hrest hcourses)
    rcases perform_of_program?_eq_none (hnone e List.mem_cons_self) m with
      rfl | rfl | ⟨change, rfl⟩ | ⟨hne, hsame⟩
    · obtain ⟨htransfer, hwait⟩ := hcourses m.course List.mem_cons_self
      exact (straight_step htransfer hwait).append
        (hrest fun c hc => hcourses c (List.mem_cons_of_mem _ hc))
    · exact hother rfl rfl rfl
    · exact hother rfl rfl rfl
    · have hstep : e.isStep = false := by
        cases e
        case step => exact absurd rfl hne
        all_goals rfl
      exact hother (by rw [hsame]) (by rw [hsame]) hstep

/-- **No long run without a transfer.** Let events of which none starts a program hold `n` steps,
with ticks and changes of the keypad in between. If all steps execute an instruction in place then
there were `2 * n` bytes from the program counter to the end of memory, and it has moved over them.
So among 2049 steps there is one that transfers, waits, finds the machine halted or meets a fault.
If none transfers or waits, and more are taken than fit into memory, then the machine has halted,
and its program counter has not gone back; unless a fault has halted it, it stands where no
instruction has a place. -/
theorem no_long_straight_line (m : Machine D K) (events : List (Event K))
    (hnone : ∀ e ∈ events, e.program? = none) :
    let n := events.countP Event.isStep
    let cs := m.courses events
    let m' := m.after events
    cs.length = n ∧
    ((∀ c ∈ cs, c = .inPlace) → 0 < n →
      m.pc.toNat + 2 * n ≤ 4096 ∧ m.pc.toNat + 2 * n ≤ m'.pc.toNat) ∧
    (2049 ≤ n → ∃ c ∈ cs, c ≠ .inPlace) ∧
    ((∀ c ∈ cs, c ≠ .transferred ∧ c ≠ .waited) → 0 < n → 4096 < m.pc.toNat + 2 * n →
      m'.halted = true ∧ m.pc ≤ m'.pc ∧
        (m.halted = false → .failed ∉ cs → 0xFFE < m'.pc.toNat)) := by
  intro n cs m'
  have hlength : cs.length = n := m.length_courses events
  have hfits (hall : ∀ c ∈ cs, c = .inPlace) (hpos : 0 < n) :
      m.pc.toNat + 2 * n ≤ 4096 ∧ m.pc.toNat + 2 * n ≤ m'.pc.toNat := by
    have hstraight : Straight m cs m' := straight_after events m hnone fun c hc => by
      rw [hall c hc]
      exact ⟨nofun, nofun⟩
    have hcount : cs.count .inPlace = n :=
      (List.count_eq_length.2 fun c hc => (hall c hc).symm).trans hlength
    rw [← hcount] at hpos ⊢
    exact ⟨hstraight.fits hpos, hstraight.pc_add_le⟩
  refine ⟨hlength, hfits, fun hlong => ?_, fun hcourses hpos hlong => ?_⟩
  · have hnotall : ¬ ∀ c ∈ cs, c = .inPlace := fun hall => by
      have := (hfits hall (by omega)).1
      omega
    simpa only [not_forall, exists_prop] using hnotall
  · have hstraight : Straight m cs m' := straight_after events m hnone hcourses
    have hle : m.pc.toNat ≤ m'.pc.toNat :=
      Nat.le_trans (Nat.le_add_right _ _) hstraight.pc_add_le
    have hhalted : m'.halted = true := by
      -- otherwise every step has executed an instruction in place
      refine Decidable.byContradiction fun hruns => ?_
      rw [hstraight.halted_iff, not_or, not_or] at hruns
      obtain ⟨-, hhalted, hfailed⟩ := hruns
      have hall (c : Course) (hc : c ∈ cs) : c = .inPlace := by
        cases c with
        | inPlace => rfl
        | transferred => exact absurd rfl (hcourses _ hc).1
        | waited => exact absurd rfl (hcourses _ hc).2
        | halted => exact absurd hc hhalted
        | failed => exact absurd hc hfailed
      have := (hfits hall hpos).1
      omega
    exact ⟨hhalted, UInt16.le_iff_toNat_le.2 hle, fun hruns => hstraight.past_end hruns hhalted⟩

/-- Behind a jump close to the end of memory there is room for two instructions. They are executed,
the third step halts the machine, and no history of 2049 steps from there stays in place. -/
theorem no_long_straight_line_at_end :
    ∃ (m : Machine FrameBuffer Keypad) (events : List (Event Keypad)),
      m.Reachable ∧ m.pc = 0xFFC ∧ events.countP Event.isStep = 2 ∧
      (∀ c ∈ m.courses events, c = .inPlace) ∧ 0x1000 ≤ (m.after events).pc.toNat ∧
      (m.after (events ++ [.step])).halted = true ∧
      0xFFE < (m.after (events ++ [.step])).pc.toNat ∧
      ∃ c ∈ m.courses (List.replicate 2049 .step), c ≠ .inPlace := by
  let m : Machine FrameBuffer Keypad :=
    (create ⟨.vy, 0, some 8⟩ (Bitmap.blank 64 32) .released (Vector.replicate 8 0)).after
      [.load [0x1F, 0xFC], .step]
  let events : List (Event Keypad) := [.step, .tick, .step]
  have hrun : m.halted = false ∧ m.pc = 0xFFC ∧ m.courses events = [.inPlace, .inPlace] ∧
      m.courses (events ++ [.step]) = [.inPlace, .inPlace, .halted] := by decide +kernel
  obtain ⟨hruns, hpc, hcourses⟩ := hrun
  have hreachable : m.Reachable := ⟨_, _, _, _, _, rfl⟩
  clear_value m
  have hplace : m.pc.toNat = 0xFFC := by rw [hpc]; rfl
  have hall : ∀ c ∈ m.courses events, c = .inPlace := by simp [hcourses.1]
  obtain ⟨-, hfits, -⟩ := m.no_long_straight_line events (by simp [events, Event.program?])
  obtain ⟨-, -, -, hend⟩ :=
    m.no_long_straight_line (events ++ [.step]) (by simp [events, Event.program?])
  obtain ⟨-, -, hlong, -⟩ := m.no_long_straight_line (List.replicate 2049 .step) fun e he => by
    rw [List.eq_of_mem_replicate he]
    rfl
  obtain ⟨hhalted, -, hpast⟩ := hend (by simp [hcourses.2]) (by decide) (by rw [hplace]; decide)
  have hafter := (hfits hall (by decide)).2
  rw [hplace] at hafter
  refine ⟨m, events, hreachable, hpc, rfl, hall, hafter, hhalted,
    hpast hruns (by simp [hcourses.2]), hlong ?_⟩
  rw [List.countP_replicate]
  exact Nat.le_refl _

end Chip8.Machine
