import Chip8.Font
import Chip8.InPlace
import Chip8.Message
import Chip8.Overlay

/-!
# Memory

4096 bytes. The font lies somewhere below address `0x200`, where programs start; it is put there
when the memory is made. Every access names a range of addresses and is checked as a whole: if one
of them does not exist, nothing is read or written (`atomic_writeInPlace`, `atomic_loadInPlace`) and
the fault names the first that is missing. Instructions are fetched two bytes at a time, with a
check of their own.
-/

namespace Chip8

/-- The bytes of a machine and the place of the font in them. -/
structure Memory where
  /-- The bytes, in the order of their addresses. -/
  bytes : Vector UInt8 4096
  /-- The address of the first byte of the font. -/
  fontBase : Address
deriving DecidableEq

namespace Memory

/-- The number of bytes. -/
def size : Nat := 4096

/-- The address of the first byte of a program. -/
def programStart : Address := 0x200

/-- The number of bytes from the start of programs to the end of memory. -/
def maxProgramSize : Nat := 3584

/-- The highest place for the font that keeps it out of programs. -/
def highestFontBase : Address := programStart - 80

/-- The place of the font for a requested place. -/
def fontBaseFor (requested : Address) : Address :=
  if requested ≤ highestFontBase then requested else highestFontBase

/-- What there is to say about a requested place of the font. -/
def fontMessages (requested : Address) : List Message :=
  if requested ≤ highestFontBase then [] else [.fontMoved requested highestFontBase]

/-- A memory that holds the font, near a requested place, and zeros. -/
def create (requestedFontBase : Address) : Memory :=
  let base := fontBaseFor requestedFontBase
  ⟨overlay (Vector.replicate 4096 0) base.toNat Font.bytes, base⟩

/-- The address of the picture of a digit. A number above fifteen gives an address behind the font.
-/
def glyphAddress (m : Memory) (digit : UInt8) : Address := m.fontBase + 5 * digit.toUInt16

/-- The bytes of a range of addresses. -/
def read (m : Memory) (address length : Nat) : Except Fault (List UInt8) :=
  if h : address + length ≤ 4096 then
    .ok (List.ofFn fun i : Fin length => m.bytes[address + i.val])
  else .error (.addressOutOfRange (max address 4096))

/-- Replace the bytes from an address on: check the range, then write. -/
def writeInPlace (address : Nat) (data : List UInt8) : EStateM Fault Memory Unit := do
  InPlace.refuseIf (4096 < address + data.length) (.addressOutOfRange (max address 4096))
  modify fun m => { m with bytes := overlay m.bytes address data }

/-- The memory with the bytes from an address on replaced. -/
def write (m : Memory) (address : Nat) (data : List UInt8) : Except Fault Memory :=
  (InPlace.attempt (writeInPlace address data) m).map Prod.snd

/-- The instruction word at an address, the more significant byte first, if both of its bytes exist.
-/
def fetch? (m : Memory) (address : Address) : Option Opcode :=
  if h : address.toNat + 1 < 4096 then
    some (Opcode.ofBytes m.bytes[address.toNat] m.bytes[address.toNat + 1])
  else none

/-- Put a program into memory: check its size, then write. -/
def loadInPlace (program : List UInt8) : EStateM Fault Memory Unit := do
  InPlace.refuseIf (maxProgramSize < program.length)
    (.programTooLarge program.length maxProgramSize)
  modify fun m => { m with bytes := overlay m.bytes programStart.toNat program }

/-- The memory with a program put into it, if it is not too large. -/
def load (m : Memory) (program : List UInt8) : Except Fault Memory :=
  (InPlace.attempt (loadInPlace program) m).map Prod.snd

/-- The byte at an address, zero where there is none. -/
def byte (m : Memory) (address : Nat) : UInt8 := m.bytes[address]?.getD 0

/-! ## The operations in place -/

/-- A write that is refused changes nothing. -/
theorem atomic_writeInPlace (address : Nat) (data : List UInt8) :
    InPlace.Atomic (writeInPlace address data) := .refuseIf_bind (.modify _)

/-- A load that is refused changes nothing. -/
theorem atomic_loadInPlace (program : List UInt8) : InPlace.Atomic (loadInPlace program) :=
  .refuseIf_bind (.modify _)

/-- A write is done if its range ends inside memory. -/
theorem write_eq (m : Memory) (address : Nat) (data : List UInt8) :
    m.write address data =
      if address + data.length ≤ 4096 then .ok { m with bytes := overlay m.bytes address data }
      else .error (.addressOutOfRange (max address 4096)) := by
  rw [write, InPlace.attempt, writeInPlace, InPlace.run_refuseIf_bind]
  by_cases h : address + data.length ≤ 4096
  · rw [if_neg (Nat.not_lt.2 h), if_pos h]
    rfl
  · rw [if_pos (Nat.not_le.1 h), if_neg h]
    rfl

/-- A program is loaded if it is not too large. -/
theorem load_eq (m : Memory) (program : List UInt8) :
    m.load program =
      if program.length ≤ maxProgramSize then
        .ok { m with bytes := overlay m.bytes programStart.toNat program }
      else .error (.programTooLarge program.length maxProgramSize) := by
  rw [load, InPlace.attempt, loadInPlace, InPlace.run_refuseIf_bind]
  by_cases h : program.length ≤ maxProgramSize
  · rw [if_neg (Nat.not_lt.2 h), if_pos h]
    rfl
  · rw [if_pos (Nat.not_le.1 h), if_neg h]
    rfl

/-! ## What the operations do, byte by byte -/

theorem maxProgramSize_add : programStart.toNat + maxProgramSize = size := rfl

/-- The font lies where it is requested, or as high as it can. -/
theorem toNat_fontBaseFor (requested : Address) :
    (fontBaseFor requested).toNat = min requested.toNat 0x1B0 := by
  have hhighest : highestFontBase.toNat = 0x1B0 := rfl
  unfold fontBaseFor
  split
  · rename_i hle
    rw [UInt16.le_iff_toNat_le] at hle
    omega
  · rename_i hlt
    rw [UInt16.le_iff_toNat_le] at hlt
    omega

/-- The pictures of all digits, and what a number above fifteen gives, have addresses below `0x6AC`
if the font does not lie in programs. -/
theorem toNat_glyphAddress {m : Memory} (h : m.fontBase.toNat ≤ 0x1B0) (digit : UInt8) :
    (m.glyphAddress digit).toNat = m.fontBase.toNat + 5 * digit.toNat := by
  have := digit.toNat_lt
  have hfive : (5 : UInt16).toNat = 5 := rfl
  rw [glyphAddress, UInt16.toNat_add, UInt16.toNat_mul, UInt8.toNat_toUInt16, hfive]
  omega

theorem byte_eq_getElem (m : Memory) {a : Nat} (h : a < 4096) : m.byte a = m.bytes[a] := by
  rw [byte, Vector.getElem?_eq_getElem h, Option.getD_some]

theorem byte_of_le (m : Memory) {a : Nat} (h : 4096 ≤ a) : m.byte a = 0 := by
  rw [byte, Vector.getElem?_eq_none h, Option.getD_none]

/-- An overlay that ends inside memory gives each address it covers its value, and leaves the rest.
-/
theorem byte_overlay (m : Memory) {start : Nat} {data : List UInt8}
    (hend : start + data.length ≤ 4096) (a : Nat) :
    ({ m with bytes := overlay m.bytes start data } : Memory).byte a =
      if h : start ≤ a ∧ a < start + data.length then data[a - start] else m.byte a := by
  by_cases ha : a < 4096
  · rw [byte_eq_getElem _ ha, getElem_overlay, byte_eq_getElem _ ha]
  · rw [byte_of_le _ (Nat.not_lt.1 ha), dif_neg (by omega), byte_of_le _ (Nat.not_lt.1 ha)]

/-- A new memory holds the font at its place, and zeros. -/
theorem byte_create (requested : Address) (a : Nat) :
    (create requested).byte a =
      if h : (fontBaseFor requested).toNat ≤ a ∧
          a < (fontBaseFor requested).toNat + Font.bytes.length then
        Font.bytes[a - (fontBaseFor requested).toNat]
      else 0 := by
  have hbase := toNat_fontBaseFor requested
  have hlength := Font.length_bytes
  have hzero : (⟨Vector.replicate 4096 0, fontBaseFor requested⟩ : Memory).byte a = 0 := by
    rw [byte, Vector.getElem?_replicate]
    split <;> rfl
  rw [← hzero]
  exact byte_overlay ⟨Vector.replicate 4096 0, fontBaseFor requested⟩ (by omega) a

/-- A write succeeds if its range ends inside memory, and then gives each address of the range its
byte and leaves the others. -/
theorem byte_write {m m' : Memory} {address : Nat} {data : List UInt8}
    (hw : m.write address data = .ok m') (a : Nat) :
    m'.byte a =
      if h : address ≤ a ∧ a < address + data.length then data[a - address] else m.byte a := by
  rw [write_eq] at hw
  split at hw
  · rename_i hend
    cases hw
    exact byte_overlay m hend a
  · cases hw

/-- What is written stands at its place. -/
theorem byte_write_add {m m' : Memory} {address : Nat} {data : List UInt8}
    (hw : m.write address data = .ok m') {i : Nat} (hi : i < data.length) :
    m'.byte (address + i) = data[i] := by
  rw [byte_write hw, dif_pos (by omega)]
  simp only [Nat.add_sub_cancel_left]

/-- A program that is loaded lies at the start of programs, and all else stays. -/
theorem byte_load {m m' : Memory} {program : List UInt8} (hl : m.load program = .ok m') (a : Nat) :
    m'.byte a =
      if h : 0x200 ≤ a ∧ a < 0x200 + program.length then program[a - 0x200] else m.byte a := by
  rw [load_eq] at hl
  split at hl
  · rename_i hsize
    cases hl
    have hmax : maxProgramSize = 3584 := rfl
    have hend : 0x200 + program.length ≤ 4096 := by omega
    exact byte_overlay m hend a
  · cases hl

/-- A range that ends inside memory is written. -/
theorem write_of_le (m : Memory) {address : Nat} {data : List UInt8}
    (h : address + data.length ≤ 4096) :
    m.write address data = .ok { m with bytes := overlay m.bytes address data } := by
  rw [write_eq, if_pos h]

/-- A program that is not too large is loaded. -/
theorem load_of_le (m : Memory) {program : List UInt8} (h : program.length ≤ maxProgramSize) :
    m.load program = .ok { m with bytes := overlay m.bytes programStart.toNat program } := by
  rw [load_eq, if_pos h]

/-- A program that is too large is not loaded. -/
theorem load_of_lt (m : Memory) {program : List UInt8} (h : maxProgramSize < program.length) :
    m.load program = .error (.programTooLarge program.length maxProgramSize) := by
  rw [load_eq, if_neg (Nat.not_le.2 h)]

/-- Memories that hold the same bytes, and the font at the same place, are the same. -/
theorem ext_byte {m m' : Memory} (hfont : m.fontBase = m'.fontBase)
    (hbyte : ∀ a, m.byte a = m'.byte a) : m = m' := by
  obtain ⟨bytes, fontBase⟩ := m
  obtain ⟨bytes', fontBase'⟩ := m'
  rw [Memory.mk.injEq]
  refine ⟨Vector.ext fun a ha => ?_, hfont⟩
  have h := hbyte a
  rwa [byte_eq_getElem _ ha, byte_eq_getElem _ ha] at h

/-- A range that ends inside memory is read byte by byte. -/
theorem read_of_le (m : Memory) {address length : Nat} (h : address + length ≤ 4096) :
    m.read address length = .ok ((List.range length).map fun i => m.byte (address + i)) := by
  rw [read, dif_pos h]
  congr 1
  apply List.ext_getElem
  · simp
  · intro i h₁ h₂
    have : i < length := by simpa using h₁
    rw [List.getElem_ofFn, List.getElem_map, List.getElem_range,
      byte_eq_getElem m (by omega : address + i < 4096)]

/-- A range that does not end inside memory is not read; the fault names the first address of it
that is missing. -/
theorem read_of_lt (m : Memory) {address length : Nat} (h : 4096 < address + length) :
    m.read address length = .error (.addressOutOfRange (max address 4096)) := by
  rw [read, dif_neg (by omega)]

/-- A read gives as many bytes as its range has. -/
theorem length_of_read {m : Memory} {address length : Nat} {bytes : List UInt8}
    (h : m.read address length = .ok bytes) : bytes.length = length := by
  unfold read at h
  split at h
  · cases h
    exact List.length_ofFn
  · cases h

/-- Fetching reads two bytes, if both exist. -/
theorem fetch?_of_lt (m : Memory) {a : Address} (h : a.toNat + 1 < 4096) :
    m.fetch? a = some (.ofBytes (m.byte a.toNat) (m.byte (a.toNat + 1))) := by
  rw [fetch?, dif_pos h, byte_eq_getElem m h, byte_eq_getElem m (by omega : a.toNat < 4096)]

theorem fetch?_of_le (m : Memory) {a : Address} (h : 4096 ≤ a.toNat + 1) : m.fetch? a = none := by
  rw [fetch?, dif_neg (by omega)]

/-- A range of addresses is refused if it does not end inside memory, and for nothing else. -/
theorem read_eq_error_iff (m : Memory) (address length : Nat) (fault : Fault) :
    m.read address length = .error fault ↔
      4096 < address + length ∧ fault = .addressOutOfRange (max address 4096) := by
  unfold read
  split
  · constructor
    · intro h
      cases h
    · intro h
      omega
  · rw [Except.error.injEq]
    exact ⟨fun h => ⟨by omega, h.symm⟩, fun h => h.2.symm⟩

/-- A write is refused if its range does not end inside memory, and for nothing else. -/
theorem write_eq_error_iff (m : Memory) (address : Nat) (data : List UInt8) (fault : Fault) :
    m.write address data = .error fault ↔
      4096 < address + data.length ∧ fault = .addressOutOfRange (max address 4096) := by
  rw [write_eq]
  split
  · constructor
    · intro h
      cases h
    · intro h
      omega
  · rw [Except.error.injEq]
    exact ⟨fun h => ⟨by omega, h.symm⟩, fun h => h.2.symm⟩

/-- A write keeps the font where it is. -/
theorem fontBase_write {m m' : Memory} {address : Nat} {data : List UInt8}
    (hw : m.write address data = .ok m') : m'.fontBase = m.fontBase := by
  rw [write_eq] at hw
  split at hw
  · cases hw
    rfl
  · cases hw

/-- A write of what stands there already changes nothing. -/
theorem eq_of_write {m m' : Memory} {address : Nat} {data : List UInt8}
    (hw : m.write address data = .ok m')
    (hdata : ∀ i (hi : i < data.length), data[i] = m.byte (address + i)) : m' = m := by
  refine ext_byte (fontBase_write hw) fun a => ?_
  rw [byte_write hw]
  split
  · rename_i hcovered
    rw [hdata, Nat.add_sub_cancel' hcovered.1]
  · rfl

/-- A program is loaded if it is not too large, and then the font stays where it is. -/
theorem fontBase_load {m m' : Memory} {program : List UInt8} (hl : m.load program = .ok m') :
    m'.fontBase = m.fontBase := by
  rw [load_eq] at hl
  split at hl
  · cases hl
    rfl
  · cases hl

/-- Nothing is fetched past the last address that has another one after it. -/
theorem fetch?_eq_none_iff (m : Memory) (a : Address) : m.fetch? a = none ↔ 0xFFE < a.toNat := by
  rcases Nat.lt_or_ge (a.toNat + 1) 4096 with hlt | hge
  · rw [fetch?_of_lt m hlt]
    exact ⟨nofun, fun h => by omega⟩
  · rw [fetch?_of_le m hge]
    exact ⟨fun _ => by omega, fun _ => rfl⟩

/-- What is fetched has both of its bytes inside memory. -/
theorem lt_of_fetch? {m : Memory} {a : Address} {w : Opcode} (h : m.fetch? a = some w) :
    a.toNat + 1 < 4096 := by
  rcases Nat.lt_or_ge (a.toNat + 1) 4096 with hlt | hge
  · exact hlt
  · rw [fetch?_of_le m hge] at h
    cases h

/-! ## The font -/

/-- A memory with the font at its place, near a requested one. -/
structure HoldsFont (m : Memory) (requested : Address) : Prop where
  toNat_fontBase : m.fontBase.toNat = min requested.toNat 0x1B0
  font_byte : ∀ i (h : i < Font.bytes.length), m.byte (m.fontBase.toNat + i) = Font.bytes[i]

namespace HoldsFont

variable {m : Memory} {requested : Address}

/-- A new memory holds the font. -/
theorem create (requested : Address) : (Memory.create requested).HoldsFont requested where
  toNat_fontBase := toNat_fontBaseFor requested
  font_byte i hi := by
    show (Memory.create requested).byte ((fontBaseFor requested).toNat + i) = Font.bytes[i]
    rw [byte_create, dif_pos (by omega)]
    simp only [Nat.add_sub_cancel_left]

/-- A program lies above the font. -/
theorem load (h : m.HoldsFont requested) {m' : Memory} {program : List UInt8}
    (hload : m.load program = .ok m') : m'.HoldsFont requested where
  toNat_fontBase := by rw [fontBase_load hload, h.toNat_fontBase]
  font_byte i hi := by
    have hbase := h.toNat_fontBase
    have hlength := Font.length_bytes
    rw [fontBase_load hload, byte_load hload, dif_neg (by omega), h.font_byte]

/-- The picture of a digit lies five bytes behind that of the digit before. -/
theorem toNat_glyphAddress (h : m.HoldsFont requested) (digit : Nibble) :
    (m.glyphAddress digit.toByte).toNat = min requested.toNat 0x1B0 + 5 * digit.val := by
  have hbase : m.fontBase.toNat ≤ 0x1B0 := by
    rw [h.toNat_fontBase]
    exact Nat.min_le_right _ _
  rw [Memory.toNat_glyphAddress hbase, h.toNat_fontBase, digit.toNat_toByte]

/-- Every picture is there. -/
theorem byte_glyph (h : m.HoldsFont requested) {digit : Nibble} {i : Nat}
    (hi : i < (Font.glyph digit).length) :
    m.byte ((m.glyphAddress digit.toByte).toNat + i) = (Font.glyph digit)[i] := by
  have hrows : i < 5 := Nat.lt_of_lt_of_eq hi (Font.length_glyph digit)
  have hfont : 5 * digit.val + i < Font.bytes.length := by
    have := digit.isLt
    show 5 * digit.val + i < 80
    omega
  rw [h.toNat_glyphAddress, ← h.toNat_fontBase, Nat.add_assoc, h.font_byte _ hfont,
    Font.getElem_glyph hi hfont]

end HoldsFont

end Memory

end Chip8
