import Chip8.Proofs.Drawing
import Chip8.Proofs.Runs

/-!
# The bounds that every machine keeps

`Machine.Bounded` is the invariant behind everything that could leave its range: the program counter
stays below `0x10FF`, at most sixteen calls are open, a call comes back to an address from `2` to
`0x1000`, and the font stays below programs. The parts need each other. An instruction is fetched
below `0xFFF`, so a call puts an address up to `0x1000` on the call stack, and a return goes to such
an address. Events preserve the invariant (`Bounded.perform`), so all reachable machines have it
(`Reachable.bounded`). Events also keep the size of a lawful display (`size_after`).
-/

namespace Chip8.Machine

/-- The program counter, the call stack and the font are where they can be. -/
structure Bounded {D K : Type} (m : Machine D K) : Prop where
  /-- The program counter goes no higher than the highest jump, `0xFFF` plus a byte. -/
  pc_le : m.pc.toNat ≤ 0x10FE
  /-- The call stack has sixteen slots. -/
  length_stack_le : m.stack.addresses.length ≤ 16
  /-- A call comes back to an address after an instruction. -/
  stack_bounds : ∀ a ∈ m.stack.addresses, 2 ≤ a.toNat ∧ a.toNat ≤ 0x1000
  /-- The font ends where programs start, or before. -/
  fontBase_le : m.memory.fontBase.toNat ≤ 0x1B0

/-- A bounded machine that has fetched an instruction and stands after it. -/
structure Fetched {D K : Type} (m : Machine D K) : Prop extends m.Bounded where
  /-- Two bytes lie before the program counter. -/
  two_le_pc : 2 ≤ m.pc.toNat
  /-- These bytes lie in memory. -/
  pc_le_size : m.pc.toNat ≤ 0x1000

/-! ## Starting -/

section

variable {D K : Type} {m : Machine D K}

private theorem bounded_of_start {requested : Address} (hpc : m.pc = Memory.programStart)
    (hstack : m.stack = .empty) (hbase : m.memory.fontBase = Memory.fontBaseFor requested) :
    m.Bounded where
  pc_le := by
    rw [hpc]
    decide
  length_stack_le := by
    rw [hstack]
    decide
  stack_bounds := by
    rw [hstack]
    exact nofun
  fontBase_le := by
    rw [hbase, Memory.toNat_fontBaseFor]
    exact Nat.min_le_right _ _

/-- A new machine is bounded. -/
theorem bounded_create (config : Config) (display : D) (keypad : K) (entropy : KeyStream.Key) :
    (create config display keypad entropy).Bounded :=
  bounded_of_start rfl rfl rfl

/-- A machine that starts over with a program is bounded. -/
theorem bounded_restart [Display D] {memory : Memory} {program : List UInt8} {requested : Address}
    (hload : (Memory.create requested).load program = .ok memory) :
    (m.restart memory).Bounded :=
  bounded_of_start rfl rfl (Memory.fontBase_load hload)

/-! ## Steps -/

/-- A fetch takes a bounded machine to one that stands after an instruction. -/
theorem Bounded.afterFetch (h : m.Bounded) {word : Opcode}
    (hfetch : m.memory.fetch? m.pc = some word) : (m.afterFetch word).Fetched := by
  have hlt := Memory.lt_of_fetch? hfetch
  have hpc : (m.afterFetch word).pc.toNat = m.pc.toNat + 2 := toNat_next_of_fetch hfetch
  exact {
    pc_le := by omega
    length_stack_le := h.length_stack_le
    stack_bounds := h.stack_bounds
    fontBase_le := h.fontBase_le
    two_le_pc := by omega
    pc_le_size := by omega }

variable [Display D] {i : Instruction} {effect : Effect D K}

/-- The program counter stays in its bounds whatever an instruction does to it. -/
theorem Fetched.pc_le_of_change (h : m.Fetched) (hchange : Change m i effect) :
    effect.machine.pc.toNat ≤ 0x10FE := by
  have hsize := h.pc_le_size
  have htarget (target : ShortAddress) : target.toAddress.toNat ≤ 0x10FE := by
    have := target.isLt
    rw [target.toNat_toAddress]
    omega
  cases hchange with
  | @returned pc stack hpop =>
    have hmem : pc ∈ m.stack.addresses := by
      rw [CallStack.addresses_of_pop? hpop]
      exact List.mem_append_right _ (List.mem_singleton_self pc)
    exact Nat.le_trans (h.stack_bounds pc hmem).2 (by decide)
  | called | jumped => exact htarget _
  | jumpedOffset target =>
    -- the highest address of all: `0xFFF + 0xFF`
    have := target.isLt
    have := (m.registers.get 0).toNat_lt
    show (target.toAddress + (m.registers.get 0).toUInt16).toNat ≤ 0x10FE
    rw [target.toNat_toAddress_add]
    omega
  | skipped hi condition =>
    have hnext : m.pc.next.toNat = m.pc.toNat + 2 := Address.toNat_next (by omega)
    rw [skipIf_eq]
    cases condition
    · exact h.pc_le
    · show m.pc.next.toNat ≤ 0x10FE
      omega
  | waited x =>
    -- the fetch has moved the program counter on by two, so going back does not wrap around
    have hprevious : m.pc.previous.toNat = m.pc.toNat - 2 :=
      UInt16.toNat_sub_of_le _ _ (UInt16.le_iff_toNat_le.2 h.two_le_pc)
    show m.pc.previous.toNat ≤ 0x10FE
    omega
  | stored | computed => exact h.pc_le

/-- An instruction that succeeds leaves the machine bounded. -/
theorem Fetched.bounded_of_change (h : m.Fetched) (hchange : Change m i effect) :
    effect.machine.Bounded where
  pc_le := h.pc_le_of_change hchange
  length_stack_le := by
    rw [CallStack.length_addresses]
    exact effect.machine.stack.depth_le
  stack_bounds := by
    intro a ha
    -- a call is the one instruction that adds an address: that of the instruction after it
    rcases hchange.stack with ⟨-, hpop⟩ | ⟨-, -, -, hpush⟩ | ⟨-, hsame⟩
    · exact h.stack_bounds a (hpop ▸ List.mem_append_left _ ha)
    · rw [hpush, List.mem_append, List.mem_singleton] at ha
      rcases ha with ha | rfl
      · exact h.stack_bounds a ha
      · exact ⟨h.two_le_pc, h.pc_le_size⟩
    · exact h.stack_bounds a (hsame ▸ ha)
  fontBase_le := by
    rw [hchange.fontBase]
    exact h.fontBase_le

end

variable {D K : Type} [Display D] [KeySource K] {m : Machine D K}

/-- A step leaves a bounded machine bounded, also when it halts the machine or fails. -/
theorem Bounded.step (h : m.Bounded) : m.step.machine.Bounded := by
  rcases m.step_cases with ⟨-, hstep⟩ | ⟨-, -, hstep⟩ | ⟨word, effect, -, hfetch, hexecute, hstep⟩ |
    ⟨word, fault, -, hfetch, -, hstep⟩
  · rw [hstep]
    exact h
  · rw [hstep]
    exact ⟨h.pc_le, h.length_stack_le, h.stack_bounds, h.fontBase_le⟩
  · rw [hstep]
    exact (h.afterFetch hfetch).bounded_of_change (execute_change hexecute)
  · have hfetched := h.afterFetch hfetch
    rw [hstep]
    exact ⟨hfetched.pc_le, hfetched.length_stack_le, hfetched.stack_bounds, hfetched.fontBase_le⟩

/-! ## Histories -/

/-- Every event leaves a bounded machine bounded. -/
theorem Bounded.perform (h : m.Bounded) (e : Event K) : (m.perform e).machine.Bounded := by
  cases hprogram : e.program? with
  | some program =>
    obtain ⟨memory, hload, hmachine⟩ := perform_of_program? hprogram m
    rw [hmachine]
    exact bounded_restart hload
  | none =>
    rcases perform_of_program?_eq_none hprogram m with rfl | rfl | ⟨change, rfl⟩ | ⟨-, hsame⟩
    · exact h.step
    · exact ⟨h.pc_le, h.length_stack_le, h.stack_bounds, h.fontBase_le⟩
    · exact ⟨h.pc_le, h.length_stack_le, h.stack_bounds, h.fontBase_le⟩
    · rw [hsame]
      exact h

/-- Every machine that a host can bring about is bounded. -/
theorem Reachable.bounded (h : m.Reachable) : m.Bounded :=
  h.induction bounded_create fun _ e hm => hm.perform e

/-! ## The size of the display -/

/-- Every event leaves the display, clears it, or draws one sprite. -/
theorem redrawn_perform (m : Machine D K) (e : Event K) :
    Redrawn m.display (m.perform e).machine.display := by
  cases hprogram : e.program? with
  | some program =>
    obtain ⟨memory, -, hmachine⟩ := perform_of_program? hprogram m
    rw [hmachine]
    exact .cleared
  | none =>
    rcases executed?_cases hprogram m with ⟨word, effect, -, -, hexecute, hmachine⟩ |
      ⟨-, keypad, timers, pc, opcode, halted, hmachine⟩
    · rw [hmachine]
      exact (execute_change hexecute).redrawn
    · rw [hmachine]
      exact .same

variable [LawfulDisplay D]

omit [KeySource K] in
/-- A lawful display that has cells keeps its size. -/
theorem Redrawn.size_eq {d d' : D} (h : Redrawn d d') (hwidth : 0 < Display.width d)
    (hheight : 0 < Display.height d) :
    Display.width d' = Display.width d ∧ Display.height d' = Display.height d := by
  cases h with
  | same => exact ⟨rfl, rfl⟩
  | cleared => exact ⟨LawfulDisplay.width_clear d, LawfulDisplay.height_clear d⟩
  | drawn x y sprite =>
    have hflipped := flipped_drawSprite hwidth hheight x y sprite
    exact ⟨hflipped.width_eq, hflipped.height_eq⟩

/-- A lawful display that has cells keeps its size in every history. -/
theorem size_after (events : List (Event K)) (hwidth : 0 < Display.width m.display)
    (hheight : 0 < Display.height m.display) :
    Display.width (m.after events).display = Display.width m.display ∧
      Display.height (m.after events).display = Display.height m.display := by
  induction events generalizing m with
  | nil => exact ⟨rfl, rfl⟩
  | cons e events ih =>
    obtain ⟨hwidth', hheight'⟩ := (m.redrawn_perform e).size_eq hwidth hheight
    rw [← hwidth'] at hwidth ⊢
    rw [← hheight'] at hheight ⊢
    exact ih hwidth hheight

end Chip8.Machine
