import Chip8.Display.Bitmap
import Chip8.Proofs.Frame
import Chip8.Proofs.Runs

/-!
# The history of every byte

Two instructions write to memory: one the decimal digits of a register, the other some registers.
`Machine.Writes` says which byte an event puts at which address. An event that starts no program
either writes to an address, and then leaves the byte there that it wrote, or it leaves the byte
that was there (`writes_or_keeps`). By induction over a history, every address holds what the last
event that wrote to it put there, or what it held at the start (`byte_after`). This includes the
addresses of the program itself, and what is fetched is what they hold.
-/

namespace Chip8

/-- Three digits are the decimal digits of a byte. -/
structure IsDecimal (value hundreds tens ones : UInt8) : Prop where
  hundreds_le : hundreds.toNat ≤ 9
  tens_le : tens.toNat ≤ 9
  ones_le : ones.toNat ≤ 9
  sum_eq : 100 * hundreds.toNat + 10 * tens.toNat + ones.toNat = value.toNat

/-- The digits that a machine computes are those of the byte. -/
theorem isDecimal_digits (value : UInt8) :
    IsDecimal value (value / 100) (value / 10 % 10) (value % 10) := by
  have hlt := value.toNat_lt
  have hhundreds : (value / 100).toNat = value.toNat / 100 := UInt8.toNat_div value 100
  have htens : (value / 10 % 10).toNat = value.toNat / 10 % 10 := by
    rw [UInt8.toNat_mod, UInt8.toNat_div]
    rfl
  have hones : (value % 10).toNat = value.toNat % 10 := UInt8.toNat_mod value 10
  exact ⟨by omega, by omega, by omega, by omega⟩

namespace Machine

variable {D K : Type} [Display D] [KeySource K] {m : Machine D K} {e : Event K} {a : Nat}

/-! ## What an event writes -/

/-- The bytes that an event puts at addresses: if it is a step that executes one of the two
instructions that write to memory, the digits of a register, or registers, from the index register
on. -/
inductive Writes (m : Machine D K) : Event K → Nat → UInt8 → Prop
  | hundreds {x : Nibble} {h t o : UInt8} (hexecuted : m.executed? .step = some (.storeDecimal x))
    (hdigits : IsDecimal (m.registers.get x) h t o) : Writes m .step m.index.toNat h
  | tens {x : Nibble} {h t o : UInt8} (hexecuted : m.executed? .step = some (.storeDecimal x))
    (hdigits : IsDecimal (m.registers.get x) h t o) : Writes m .step (m.index.toNat + 1) t
  | ones {x : Nibble} {h t o : UInt8} (hexecuted : m.executed? .step = some (.storeDecimal x))
    (hdigits : IsDecimal (m.registers.get x) h t o) : Writes m .step (m.index.toNat + 2) o
  | register {x z : Nibble} (hexecuted : m.executed? .step = some (.storeRegisters x))
    (hz : z ≤ x) : Writes m .step (m.index.toNat + z.val) (m.registers.get z)

/-- An event that writes executes an instruction that may change the byte. -/
theorem Writes.storedBytes {v : UInt8} (h : m.Writes e a v) :
    ∃ i, m.executed? e = some i ∧ m.index.toNat ≤ a ∧ a < m.index.toNat + i.storedBytes := by
  cases h with
  | hundreds hexecuted | tens hexecuted | ones hexecuted =>
    refine ⟨_, hexecuted, by omega, ?_⟩
    rw [Instruction.storedBytes]
    omega
  | register hexecuted hz =>
    refine ⟨_, hexecuted, by omega, ?_⟩
    rw [Fin.le_def] at hz
    rw [Instruction.storedBytes]
    omega

/-- The digits that are stored stand one after the other. -/
private theorem writes_of_storeDecimal {word : Opcode} {x : Nibble} {effect : Effect D K}
    (hexecuted : m.executed? .step = some (.storeDecimal x))
    (hexecute : (m.afterFetch word).execute (.storeDecimal x) = .ok effect) {i : Nat} (hi : i < 3) :
    m.Writes .step (m.index.toNat + i) (effect.machine.memory.byte (m.index.toNat + i)) := by
  obtain ⟨memory, hwrite, rfl⟩ := store_eq_ok hexecute
  have hbyte : memory.byte (m.index.toNat + i) = (decimalDigits (m.registers.get x))[i] :=
    Memory.byte_write_add hwrite hi
  have hdigits := isDecimal_digits (m.registers.get x)
  show m.Writes .step (m.index.toNat + i) (memory.byte (m.index.toNat + i))
  rw [hbyte]
  obtain rfl | rfl | rfl : i = 0 ∨ i = 1 ∨ i = 2 := by omega
  · exact .hundreds hexecuted hdigits
  · exact .tens hexecuted hdigits
  · exact .ones hexecuted hdigits

/-- The registers that are stored stand one after the other. -/
private theorem writes_of_storeRegisters {word : Opcode} {x : Nibble} {effect : Effect D K}
    (hexecuted : m.executed? .step = some (.storeRegisters x))
    (hexecute : (m.afterFetch word).execute (.storeRegisters x) = .ok effect) {i : Nat}
    (hi : i < x.val + 1) :
    m.Writes .step (m.index.toNat + i) (effect.machine.memory.byte (m.index.toNat + i)) := by
  obtain ⟨memory, hwrite, rfl⟩ := store_eq_ok hexecute
  have hx := x.isLt
  let z : Nibble := ⟨i, by omega⟩
  have hz : z ≤ x := Nat.le_of_lt_succ hi
  have hbyte : memory.byte (m.index.toNat + z.val) = m.registers.get z := byte_write_upTo hwrite hz
  show m.Writes .step (m.index.toNat + z.val) (memory.byte (m.index.toNat + z.val))
  rw [hbyte]
  exact .register hexecuted hz

/-- An event that starts no program leaves at an address the byte that it writes there, or the byte
that was there. -/
theorem writes_or_keeps (hprogram : e.program? = none) (m : Machine D K) (a : Nat) :
    m.Writes e a ((m.perform e).machine.memory.byte a) ∨
      (∀ v, ¬ m.Writes e a v) ∧ (m.perform e).machine.memory.byte a = m.memory.byte a := by
  rcases executed?_cases hprogram m with ⟨word, effect, rfl, hexecuted, hexecute, hmachine⟩ |
    ⟨hexecuted, keypad, timers, pc, opcode, halted, hmachine⟩
  · rw [hmachine]
    by_cases hrange : m.index.toNat ≤ a ∧
        a < m.index.toNat + (Instruction.decode word).storedBytes
    · obtain ⟨i, rfl⟩ := Nat.exists_eq_add_of_le hrange.1
      have hi : i < (Instruction.decode word).storedBytes := by omega
      generalize Instruction.decode word = instruction at hexecuted hexecute hi
      cases instruction
      case storeDecimal => exact .inl (writes_of_storeDecimal hexecuted hexecute hi)
      case storeRegisters => exact .inl (writes_of_storeRegisters hexecuted hexecute hi)
      -- no other instruction stores a byte
      all_goals cases hi
    · refine .inr ⟨fun v hwrites => ?_, (framed_execute hexecute).byte_eq a hrange⟩
      obtain ⟨i, hi, hstored⟩ := hwrites.storedBytes
      rw [hexecuted] at hi
      obtain rfl := Option.some.inj hi
      exact hrange hstored
  · refine .inr ⟨fun v hwrites => ?_, by rw [hmachine]⟩
    obtain ⟨i, hi, -⟩ := hwrites.storedBytes
    rw [hexecuted] at hi
    cases hi

/-! ## What a history leaves -/

/-- No event of a history writes to an address. -/
def Untouched (m : Machine D K) (a : Nat) : List (Event K) → Prop
  | [] => True
  | e :: events => (∀ v, ¬ m.Writes e a v) ∧ (m.perform e).machine.Untouched a events

/-- After a history without a new program an address holds the byte that it held before, if no event
wrote to it, and else the byte that the last of these events put there. -/
theorem byte_after (a : Nat) (events : List (Event K)) (m : Machine D K)
    (hnone : ∀ e ∈ events, e.program? = none) :
    (m.Untouched a events ∧ (m.after events).memory.byte a = m.memory.byte a) ∨
      ∃ es e fs, events = es ++ e :: fs ∧
        (m.after es).Writes e a ((m.after events).memory.byte a) ∧
        (m.after (es ++ [e])).Untouched a fs := by
  induction events generalizing m with
  | nil => exact .inl ⟨trivial, rfl⟩
  | cons e events ih =>
    rcases ih (m.perform e).machine fun e' he' => hnone e' (List.mem_cons_of_mem e he') with
      ⟨hrest, hbyte⟩ | ⟨es, last, fs, rfl, hwrites, hrest⟩
    · rcases writes_or_keeps (hnone e List.mem_cons_self) m a with hwrites | ⟨hnot, hkept⟩
      · refine .inr ⟨[], e, events, rfl, ?_, hrest⟩
        rw [after_cons, hbyte]
        exact hwrites
      · exact .inl ⟨⟨hnot, hrest⟩, hbyte.trans hkept⟩
    · exact .inr ⟨e :: es, last, fs, rfl, hwrites, hrest⟩

/-! ## What is fetched -/

/-- A step that fetches reads the two bytes at the program counter, the more significant one first,
and decodes their word. -/
theorem step_reads_bytes (hruns : m.halted = false) (hpc : m.pc.toNat ≤ 0xFFE) :
    ∃ word : Opcode,
      word.toNat = 256 * (m.memory.byte m.pc.toNat).toNat +
        (m.memory.byte (m.pc.toNat + 1)).toNat ∧
      m.nextInstruction? = some (.decode word) ∧ m.step.machine.opcode = word ∧
      Message.fetched m.pc word ∈ m.step.messages := by
  have hfetch := m.memory.fetch?_of_lt (a := m.pc) (by omega)
  refine ⟨_, Opcode.toNat_ofBytes _ _, nextInstruction?_of_fetch hruns hfetch, ?_⟩
  cases hexecute : (m.afterFetch (.ofBytes (m.memory.byte m.pc.toNat)
      (m.memory.byte (m.pc.toNat + 1)))).execute (.decode _) with
  | ok effect =>
    rw [step_of_execute_eq_ok hruns hfetch hexecute]
    exact ⟨(execute_change hexecute).opcode, List.mem_cons_self⟩
  | error fault =>
    rw [step_of_execute_eq_error hruns hfetch hexecute]
    exact ⟨rfl, List.mem_cons_self⟩

/-- **The history of every byte.** A program that fits is loaded into any machine, and then come any
events of which none starts a program. Every address holds the byte of the loaded image, if no event
wrote to it, and else what the last event that wrote to it put there. A step that fetches reads
exactly these bytes, the more significant one first. -/
theorem byte_from_last_write (m : Machine D K) {program : List UInt8}
    (hfits : program.length ≤ 3584) (events : List (Event K))
    (hnone : ∀ e ∈ events, e.program? = none) :
    let s := (m.load program).machine
    let t := s.after events
    (m.load program).result = .ok () ∧
    (Memory.create m.config.fontBase).load program = .ok s.memory ∧
    (∀ a < 4096,
      (s.Untouched a events ∧ t.memory.byte a = s.memory.byte a) ∨
      ∃ es e fs, events = es ++ e :: fs ∧ (s.after es).Writes e a (t.memory.byte a) ∧
        (s.after (es ++ [e])).Untouched a fs) ∧
    (t.halted = false → t.pc.toNat ≤ 0xFFE →
      ∃ word : Opcode,
        word.toNat = 256 * (t.memory.byte t.pc.toNat).toNat +
          (t.memory.byte (t.pc.toNat + 1)).toNat ∧
        t.nextInstruction? = some (.decode word) ∧ t.step.machine.opcode = word ∧
        Message.fetched t.pc word ∈ t.step.messages) := by
  obtain ⟨memory, hload, hresult, hmachine⟩ := m.load_of_length_le hfits
  intro s t
  have hmemory : s.memory = memory := congrArg Machine.memory hmachine
  exact ⟨hresult, hmemory ▸ hload, fun a _ => s.byte_after a events hnone, step_reads_bytes⟩

/-- A program that stores the digits of `V0` behind its own code, and then `V0` and `V1` over the
first two of them: the third digit stays, and what comes next is an instruction that the program has
written. -/
theorem byte_from_last_write_own_code :
    ∃ (m : Machine FrameBuffer Keypad) (program : List UInt8) (events : List (Event Keypad)),
      program.length ≤ 3584 ∧ (∀ e ∈ events, e.program? = none) ∧
      let s := (m.load program).machine
      (∃ es e fs, events = es ++ e :: fs ∧ (s.after es).Writes e 0x20C 3 ∧
        (s.after (es ++ [e])).Untouched 0x20C fs) ∧
      (s.after events).step.machine.opcode = 0x7B12 := by
  let m : Machine FrameBuffer Keypad :=
    create ⟨.vy, 0, some 8⟩ (Bitmap.blank 64 32) .released (Vector.replicate 8 0)
  let program : List UInt8 := [0xA2, 0x0A, 0x60, 0x7B, 0xF0, 0x33, 0x61, 0x12, 0xF1, 0x55]
  let events : List (Event Keypad) := [.step, .step, .tick, .step, .step, .step]
  have hfits : program.length ≤ 3584 := by decide
  have hnone : ∀ e ∈ events, e.program? = none := by simp [events, Event.program?]
  obtain ⟨-, -, hbyte, hfetch⟩ := byte_from_last_write m hfits events hnone
  have hrun : let s := (m.load program).machine
      let t := s.after events
      s.memory.byte 0x20C = 0 ∧ t.memory.byte 0x20C = 3 ∧ t.halted = false ∧ t.pc = 0x20A ∧
        t.memory.byte 0x20A = 0x7B ∧ t.memory.byte 0x20B = 0x12 := by decide +kernel
  obtain ⟨himage, hlast, hruns, hpc, hhigh, hlow⟩ := hrun
  refine ⟨m, program, events, hfits, hnone, ?_, ?_⟩
  · rcases hbyte 0x20C (by decide) with ⟨-, hsame⟩ | hwritten
    · rw [himage, hlast] at hsame
      cases hsame
    · rw [hlast] at hwritten
      exact hwritten
  · obtain ⟨word, hword, -, hopcode, -⟩ := hfetch hruns (by rw [hpc]; decide)
    rw [hopcode]
    apply UInt16.toNat_inj.1
    rw [hword, hpc]
    show 256 * (((m.load program).machine.after events).memory.byte 0x20A).toNat +
      (((m.load program).machine.after events).memory.byte 0x20B).toNat = _
    rw [hhigh, hlow]
    rfl

end Machine

end Chip8
