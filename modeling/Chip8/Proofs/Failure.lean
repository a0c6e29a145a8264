import Chip8.Display.Bitmap
import Chip8.Proofs.Execution

/-!
# How instructions fail

Six instructions can fail. `Machine.Fails` says of each when it does and what the fault is, in terms
of the machine before the step. A step fails exactly so, and a step that fails leaves no work half
done: however the instruction was gone through in place, it has changed nothing when it fails
(`Work.run_execute`). So the instruction was fetched, the machine is halted, and everything else is
as it was (`step_error_iff`).
-/

namespace Chip8.Machine

/-- When an instruction fails on a machine that stands at it, and with which fault. -/
inductive Fails {D K : Type} (m : Machine D K) : Instruction → Fault → Prop
  /-- A return needs an open call. -/
  | ret (hempty : m.stack.addresses = []) : Fails m .ret (.stackUnderflow m.pc)
  /-- A call needs one of the sixteen slots. -/
  | call {target : ShortAddress} (hfull : m.stack.addresses.length = 16) :
    Fails m (.call target) (.stackOverflow m.pc)
  /-- A sprite lies in memory as a whole. -/
  | draw {x y n : Nibble} (hrange : 4096 < m.index.toNat + n.val) :
    Fails m (.draw x y n) (.addressOutOfRange (max m.index.toNat 4096))
  /-- Three digits need three bytes. -/
  | storeDecimal {x : Nibble} (hrange : 4096 < m.index.toNat + 3) :
    Fails m (.storeDecimal x) (.addressOutOfRange (max m.index.toNat 4096))
  /-- The registers up to `VX` need a byte each. -/
  | storeRegisters {x : Nibble} (hrange : 4096 < m.index.toNat + (x.val + 1)) :
    Fails m (.storeRegisters x) (.addressOutOfRange (max m.index.toNat 4096))
  /-- The registers up to `VX` need a byte each. -/
  | loadRegisters {x : Nibble} (hrange : 4096 < m.index.toNat + (x.val + 1)) :
    Fails m (.loadRegisters x) (.addressOutOfRange (max m.index.toNat 4096))

variable {D K : Type} {m : Machine D K} {fault : Fault}

/-- A store is refused if its bytes do not fit, and for nothing else. -/
theorem store_eq_error_iff (bytes : List UInt8) :
    m.store bytes = .error fault ↔
      4096 < m.index.toNat + bytes.length ∧
        fault = .addressOutOfRange (max m.index.toNat 4096) := by
  rw [← Memory.write_eq_error_iff m.memory, store]
  cases m.memory.write m.index.toNat bytes with
  | ok memory =>
    constructor
    · intro h
      cases h
    · intro h
      cases h
  | error fault' => rw [Except.error.injEq, Except.error.injEq]

variable [Display D] [KeySource K] {word : Opcode} {i : Instruction}

/-- An instruction whose condition holds fails. -/
theorem Fails.execute_eq (h : m.Fails i fault) : (m.afterFetch word).execute i = .error fault := by
  have hsite : (m.afterFetch word).pc.previous = m.pc := Address.previous_next m.pc
  cases h with
  | ret hempty =>
    have hpop : (m.afterFetch word).stack.pop? = none := (CallStack.pop?_eq_none_iff _).2 hempty
    rw [execute, hpop, hsite]
  | call hfull =>
    have hpush : (m.afterFetch word).stack.push? (m.afterFetch word).pc = none :=
      (CallStack.push?_eq_none_iff _ _).2 hfull
    rw [execute, hpush, hsite]
  | @draw x y n hrange =>
    have hread : (m.afterFetch word).memory.read (m.afterFetch word).index.toNat n.val = .error _ :=
      (Memory.read_eq_error_iff _ _ _ _).2 ⟨hrange, rfl⟩
    rw [execute, hread]
    rfl
  | storeDecimal hrange => exact (store_eq_error_iff _).2 ⟨hrange, rfl⟩
  | @storeRegisters x hrange =>
    rw [← m.registers.length_upTo x] at hrange
    exact (store_eq_error_iff _).2 ⟨hrange, rfl⟩
  | @loadRegisters x hrange =>
    have hread : (m.afterFetch word).memory.read (m.afterFetch word).index.toNat (x.val + 1) =
      .error _ := (Memory.read_eq_error_iff _ _ _ _).2 ⟨hrange, rfl⟩
    rw [execute, hread]
    rfl

/-- An instruction fails only if its condition holds. -/
theorem fails_of_execute (h : (m.afterFetch word).execute i = .error fault) : m.Fails i fault := by
  have hsite : (m.afterFetch word).pc.previous = m.pc := Address.previous_next m.pc
  cases i
  case ret =>
    rw [execute, hsite] at h
    split at h
    · cases h
    · rename_i hpop
      cases h
      exact .ret ((CallStack.pop?_eq_none_iff _).1 hpop)
  case call =>
    rw [execute, hsite] at h
    split at h
    · cases h
    · rename_i hpush
      cases h
      exact .call ((CallStack.push?_eq_none_iff _ _).1 hpush)
  case draw =>
    rw [execute] at h
    split at h
    · cases h
    · rename_i hread
      cases h
      obtain ⟨hrange, rfl⟩ := (Memory.read_eq_error_iff _ _ _ _).1 hread
      exact .draw hrange
  case awaitKey =>
    rw [execute] at h
    split at h <;> cases h
  case storeDecimal =>
    obtain ⟨hrange, rfl⟩ := (store_eq_error_iff _).1 h
    exact .storeDecimal hrange
  case storeRegisters x =>
    obtain ⟨hrange, rfl⟩ := (store_eq_error_iff _).1 h
    rw [Registers.length_upTo] at hrange
    exact .storeRegisters hrange
  case loadRegisters =>
    rw [execute] at h
    split at h
    · cases h
    · rename_i hread
      cases h
      obtain ⟨hrange, rfl⟩ := (Memory.read_eq_error_iff _ _ _ _).1 hread
      exact .loadRegisters hrange
  -- all others succeed on every machine
  all_goals cases h

/-- A step that executes an instruction fails if and only if the instruction's condition holds. -/
theorem result_step_eq_error_iff (hnext : m.nextInstruction? = some i) {fault : Fault} :
    m.step.result = .error fault ↔ m.Fails i fault := by
  obtain ⟨word, hruns, hfetch, rfl⟩ := fetch_of_nextInstruction? hnext
  have hfails : m.Fails (.decode word) fault ↔
      (m.afterFetch word).execute (.decode word) = .error fault :=
    ⟨Fails.execute_eq, fails_of_execute⟩
  rw [hfails]
  cases hexecute : (m.afterFetch word).execute (.decode word) with
  | ok effect =>
    rw [step_of_execute_eq_ok hruns hfetch hexecute]
    exact ⟨nofun, nofun⟩
  | error fault' =>
    rw [step_of_execute_eq_error hruns hfetch hexecute, Except.error.injEq, Except.error.injEq]

/-- **Failing steps, exactly.** A step that executes an instruction fails if and only if the
instruction's condition for failing holds, and with its fault. Then the instruction, executed in
place, leaves the machine as it stands after the fetch, and reports nothing. So the machine after a
failing step is the one before, but that the program counter stands after the instruction, that its
word is the one executed last, and that the machine is halted. -/
theorem step_error_iff (hruns : m.halted = false) (hfetch : m.memory.fetch? m.pc = some word)
    (fault : Fault) :
    (m.step.result = .error fault ↔ m.Fails (.decode word) fault) ∧
    (m.step.result = .error fault →
      (∀ messages, (Work.execute (.decode word)).run ⟨m.afterFetch word, messages⟩ =
        .error fault ⟨m.afterFetch word, messages⟩) ∧
      m.step.machine = { m with pc := m.pc + 2, opcode := word, halted := true } ∧
      (m.pc + 2).toNat = m.pc.toNat + 2) := by
  have hiff : m.step.result = .error fault ↔ m.Fails (.decode word) fault :=
    result_step_eq_error_iff (nextInstruction?_of_fetch hruns hfetch)
  refine ⟨hiff, fun herror => ?_⟩
  have hexecute : (m.afterFetch word).execute (.decode word) = .error fault :=
    (hiff.1 herror).execute_eq
  refine ⟨fun messages => ?_, ?_, toNat_next_of_fetch hfetch⟩
  · rw [Work.run_execute, hexecute]
    rfl
  · rw [step_of_execute_eq_error hruns hfetch hexecute]
    rfl

/-- Storing `V0` to `V3` two bytes before the end of memory. -/
theorem step_error_iff_store_past_end :
    ∃ m : Machine FrameBuffer Keypad, m.Reachable ∧ m.halted = false ∧
      m.memory.fetch? m.pc = some 0xF355 ∧
      m.step.result = .error (.addressOutOfRange 4096) ∧
      m.step.machine = { m with pc := m.pc + 2, opcode := 0xF355, halted := true } := by
  let m : Machine FrameBuffer Keypad :=
    (create ⟨.vy, 0, some 8⟩ (Bitmap.blank 64 32) .released (Vector.replicate 8 0)).after
      [.load [0xAF, 0xFE, 0xF3, 0x55], .step]
  have hbefore : m.halted = false ∧ m.memory.fetch? m.pc = some 0xF355 ∧ m.index = 0xFFE := by
    decide +kernel
  obtain ⟨hruns, hfetch, hindex⟩ := hbefore
  have hfails : m.Fails (.storeRegisters 3) (.addressOutOfRange (max m.index.toNat 4096)) :=
    .storeRegisters (by
      rw [hindex]
      decide)
  rw [hindex] at hfails
  obtain ⟨hiff, hrest⟩ := step_error_iff hruns hfetch (.addressOutOfRange 4096)
  have herror := hiff.2 hfails
  exact ⟨m, ⟨_, _, _, _, _, rfl⟩, hruns, hfetch, herror, (hrest herror).2.1⟩

end Chip8.Machine
