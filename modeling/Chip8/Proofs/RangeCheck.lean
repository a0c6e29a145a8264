import Chip8.Display.Bitmap
import Chip8.Proofs.Failure
import Mathlib.Order.Bounds.Defs

/-!
# What the check of a range refuses

Every access to memory but a fetch names a range of addresses, and the range is checked by its end.
A range that has addresses without a byte is refused, and the fault names the first of them. But a
range without any address that starts behind the end of memory is refused as well, although no byte
of it is missing, and the fault names its start (`RangeFault`). Among the instructions that access
memory (`Instruction.accessed?`) only a draw of no rows asks for such a range.
-/

namespace Chip8

/-- The addresses of a range at which there is no byte. -/
def missingAddresses (address length : Nat) : Set Nat :=
  {a | address ≤ a ∧ a < address + length ∧ 4096 ≤ a}

/-- When a range of addresses is refused, and with which fault. -/
inductive RangeFault (address length : Nat) : Fault → Prop
  /-- An address of the range has no byte; the first one that has none is named. -/
  | missing {a : Nat} (hfirst : IsLeast (missingAddresses address length) a) :
    RangeFault address length (.addressOutOfRange a)
  /-- The range has no addresses and starts behind the end of memory; its start is named. -/
  | emptyBehindEnd (hempty : length = 0) (hbehind : 4096 < address) :
    RangeFault address length (.addressOutOfRange address)

/-- Where no address is, none is missing. -/
theorem not_mem_missingAddresses_zero (address a : Nat) : a ∉ missingAddresses address 0 := by
  rintro ⟨hstart, hend, -⟩
  omega

/-- The first address that is missing is the start of the range, or the end of memory. -/
theorem isLeast_missingAddresses_iff {address length a : Nat} :
    IsLeast (missingAddresses address length) a ↔
      0 < length ∧ 4096 < address + length ∧ a = max address 4096 := by
  constructor
  · rintro ⟨⟨hstart, hend, hmissing⟩, hleast⟩
    have hle : a ≤ max address 4096 := hleast ⟨by omega, by omega, by omega⟩
    exact ⟨by omega, by omega, by omega⟩
  · rintro ⟨hpos, hend, rfl⟩
    refine ⟨⟨by omega, by omega, by omega⟩, fun b hb => ?_⟩
    obtain ⟨hstart, -, hmissing⟩ := hb
    exact Nat.max_le.2 ⟨hstart, hmissing⟩

/-- A range is refused if and only if it does not end inside memory. -/
theorem rangeFault_iff {address length : Nat} {fault : Fault} :
    RangeFault address length fault ↔
      4096 < address + length ∧ fault = .addressOutOfRange (max address 4096) := by
  constructor
  · rintro (hfirst | ⟨rfl, hbehind⟩)
    · obtain ⟨-, hend, rfl⟩ := isLeast_missingAddresses_iff.1 hfirst
      exact ⟨hend, rfl⟩
    · exact ⟨hbehind, by rw [Nat.max_eq_left (Nat.le_of_lt hbehind)]⟩
  · rintro ⟨hend, rfl⟩
    rcases Nat.eq_zero_or_pos length with rfl | hpos
    · have hmax : max address 4096 = address := Nat.max_eq_left (Nat.le_of_lt hend)
      rw [hmax]
      exact .emptyBehindEnd rfl hend
    · exact .missing (isLeast_missingAddresses_iff.2 ⟨hpos, hend, rfl⟩)

/-- The number of bytes from the index register on that an instruction reads or writes, if it is one
of those that do. -/
def Instruction.accessed? : Instruction → Option Nat
  | .draw _ _ n => some n.val
  | .storeDecimal _ => some 3
  | .storeRegisters x | .loadRegisters x => some (x.val + 1)
  | _ => none

namespace Machine

variable {D K : Type} {m : Machine D K} {i : Instruction} {length : Nat}

/-- An instruction that reads or writes bytes fails if and only if their range is refused. -/
theorem fails_iff_rangeFault (haccessed : i.accessed? = some length) {fault : Fault} :
    m.Fails i fault ↔ RangeFault m.index.toNat length fault := by
  rw [rangeFault_iff]
  cases i
  case draw | storeDecimal | storeRegisters | loadRegisters =>
    obtain rfl := Option.some.inj haccessed
    -- the condition of each of the four is that its range does not end inside memory
    constructor
    · intro hfails
      cases hfails
      rename_i hrange
      exact ⟨hrange, rfl⟩
    · rintro ⟨hrange, rfl⟩
      constructor
      exact hrange
  all_goals cases haccessed

variable [Display D] [KeySource K]

/-- **The check of a range, exactly.** Reading a range, writing data, and a step that executes an
instruction with an access to memory are refused in two cases: an address without a byte is among
those accessed, and the fault names the first of them; or nothing is accessed at all, behind the end
of memory, and the fault names that place. -/
theorem accesses_refused (memory : Memory) (address count : Nat) (data : List UInt8)
    (hnext : m.nextInstruction? = some i) (haccessed : i.accessed? = some length) (fault : Fault) :
    (memory.read address count = .error fault ↔ RangeFault address count fault) ∧
    (memory.write address data = .error fault ↔ RangeFault address data.length fault) ∧
    (m.step.result = .error fault ↔ RangeFault m.index.toNat length fault) :=
  ⟨(memory.read_eq_error_iff _ _ _).trans rangeFault_iff.symm,
    (memory.write_eq_error_iff _ _ _).trans rangeFault_iff.symm,
    (result_step_eq_error_iff hnext).trans (fails_iff_rangeFault haccessed)⟩

/-- A sprite of fifteen rows six bytes before the end of memory: the fault names the seventh. -/
theorem accesses_refused_sprite_at_end :
    ∃ m : Machine FrameBuffer Keypad, m.Reachable ∧ m.index = 0xFFA ∧
      m.nextInstruction? = some (.draw 0 0 15) ∧
      m.step.result = .error (.addressOutOfRange 0x1000) ∧
      m.memory.read 0xFFA 15 = .error (.addressOutOfRange 0x1000) ∧
      ∀ fault, m.memory.write 0xFFA [1, 2, 3] ≠ .error fault := by
  let m : Machine FrameBuffer Keypad :=
    (create ⟨.vy, 0, some 8⟩ (Bitmap.blank 64 32) .released (Vector.replicate 8 0)).after
      [.load [0xAF, 0xFA, 0xD0, 0x0F], .step]
  have hnext : m.nextInstruction? = some (.draw 0 0 15) ∧ m.index = 0xFFA := by decide +kernel
  obtain ⟨hnext, hindex⟩ := hnext
  have hrefused : RangeFault 0xFFA 15 (.addressOutOfRange 0x1000) :=
    .missing (isLeast_missingAddresses_iff.2 (by decide))
  have haccesses := accesses_refused m.memory 0xFFA 15 [1, 2, 3] hnext rfl
  refine ⟨m, ⟨_, _, _, _, _, rfl⟩, hindex, hnext, ?_, (haccesses _).1.2 hrefused,
    fun fault hwrite => ?_⟩
  · have hstep := (haccesses (.addressOutOfRange 0x1000)).2.2
    rw [hindex] at hstep
    exact hstep.2 hrefused
  · have hrange := rangeFault_iff.1 ((haccesses fault).2.1.1 hwrite)
    exact absurd hrange.1 (by decide)

/-- A sprite without rows has no byte that could be missing, and yet drawing it is a fault if the
index register points behind the end of memory. -/
theorem draw_of_no_rows_refused :
    ∃ m : Machine FrameBuffer Keypad, m.Reachable ∧ m.index = 0x1001 ∧
      m.nextInstruction? = some (.draw 0 0 0) ∧ (∀ a, a ∉ missingAddresses 0x1001 0) ∧
      m.memory.read 0x1001 0 = .error (.addressOutOfRange 0x1001) ∧
      m.step.result = .error (.addressOutOfRange 0x1001) := by
  let m : Machine FrameBuffer Keypad :=
    (create ⟨.vy, 0, some 8⟩ (Bitmap.blank 64 32) .released (Vector.replicate 8 0)).after
      [.load [0xAF, 0xFF, 0x60, 0x02, 0xF0, 0x1E, 0xD0, 0x00], .step, .step, .step]
  have hrun : m.index = 0x1001 ∧ m.nextInstruction? = some (.draw 0 0 0) := by decide +kernel
  obtain ⟨hindex, hnext⟩ := hrun
  have hread : m.memory.read 0x1001 0 = .error (.addressOutOfRange 0x1001) :=
    m.memory.read_of_lt (by decide)
  have hfails : m.Fails (.draw 0 0 0) (.addressOutOfRange (max m.index.toNat 4096)) :=
    .draw (by rw [hindex]; decide)
  rw [hindex] at hfails
  exact ⟨m, ⟨_, _, _, _, _, rfl⟩, hindex, hnext, not_mem_missingAddresses_zero _, hread,
    (result_step_eq_error_iff hnext).2 hfails⟩

end Machine

end Chip8
