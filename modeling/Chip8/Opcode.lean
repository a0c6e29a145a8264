/-!
# Instruction words and addresses

A CHIP-8 instruction is one 16-bit word, written as four hexadecimal digits `TXYN`. This module
names the parts of such a word: the family `T`, the register numbers `X` and `Y`, the last digit
`N`, the low byte `KK`, and the short address `NNN`. The parts are defined by division and
remainder, so that statements about them are statements of arithmetic. It also holds addresses and
how a program counter moves by one instruction.
-/

namespace Chip8

/-- A hexadecimal digit, which is also the number of a register or a key. -/
abbrev Nibble := Fin 16

/-- Numerals are digits by their remainder. -/
instance Nibble.neZero : @NeZero Nat Zero.ofOfNat0 16 := @Nat.instNeZeroSucc 15

/-- The low four bits of a byte. -/
def Nibble.ofByte (b : UInt8) : Nibble := Fin.ofNat 16 b.toNat

/-- The byte whose high four bits are zero. -/
def Nibble.toByte (n : Nibble) : UInt8 := UInt8.ofNat n.val

theorem Nibble.toNat_toByte (n : Nibble) : n.toByte.toNat = n.val := by
  have := n.isLt
  rw [toByte, UInt8.toNat_ofNat']
  omega

/-- An address as the registers of the machine hold it: sixteen bits, of which memory has 4096. -/
abbrev Address := UInt16

/-- The twelve bits of address that fit into an instruction word. -/
abbrev ShortAddress := Fin 4096

/-- Numerals are short addresses by their remainder. -/
instance ShortAddress.neZero : @NeZero Nat Zero.ofOfNat0 4096 := @Nat.instNeZeroSucc 4095

/-- The machine address with the four high bits zero. -/
def ShortAddress.toAddress (a : ShortAddress) : Address := UInt16.ofNat a.val

theorem ShortAddress.toNat_toAddress (a : ShortAddress) : a.toAddress.toNat = a.val := by
  have := a.isLt
  rw [toAddress, UInt16.toNat_ofNat']
  omega

/-- A short address and a byte have a sum below 4351: it fits into an address. -/
theorem ShortAddress.toNat_toAddress_add (a : ShortAddress) (b : UInt8) :
    (a.toAddress + b.toUInt16).toNat = a.val + b.toNat := by
  have := a.isLt
  have := b.toNat_lt
  rw [UInt16.toNat_add, a.toNat_toAddress, UInt8.toNat_toUInt16]
  omega

namespace Address

/-- The address of the instruction that follows. -/
def next (a : Address) : Address := a + 2

/-- The address of the instruction before. -/
def previous (a : Address) : Address := a - 2

theorem toNat_next {a : Address} (h : a.toNat + 2 < 65536) : a.next.toNat = a.toNat + 2 := by
  rw [next, UInt16.toNat_add]
  exact Nat.mod_eq_of_lt h

@[simp] theorem previous_next (a : Address) : a.next.previous = a := by
  simp [next, previous]

@[simp] theorem next_previous (a : Address) : a.previous.next = a := by
  simp [next, previous]

end Address

/-- A 16-bit instruction word. -/
abbrev Opcode := UInt16

namespace Opcode

/-- The first digit, which selects the kind of instruction. -/
def family (w : Opcode) : Nibble := Fin.ofNat 16 (w.toNat / 0x1000)

/-- The second digit. -/
def x (w : Opcode) : Nibble := Fin.ofNat 16 (w.toNat / 0x100)

/-- The third digit. -/
def y (w : Opcode) : Nibble := Fin.ofNat 16 (w.toNat / 0x10)

/-- The last digit. -/
def n (w : Opcode) : Nibble := Fin.ofNat 16 w.toNat

/-- The last two digits, as a byte. -/
def kk (w : Opcode) : UInt8 := UInt8.ofNat w.toNat

/-- The last three digits, as an address. -/
def nnn (w : Opcode) : ShortAddress := Fin.ofNat 4096 w.toNat

/-- The word of two bytes, the more significant one first. -/
def ofBytes (high low : UInt8) : Opcode := UInt16.ofNat (256 * high.toNat + low.toNat)

theorem val_family (w : Opcode) : w.family.val = w.toNat / 0x1000 := by
  have := w.toNat_lt
  simp only [family, Fin.val_ofNat]
  omega

theorem val_x (w : Opcode) : w.x.val = w.toNat / 0x100 % 16 := rfl

theorem val_y (w : Opcode) : w.y.val = w.toNat / 0x10 % 16 := rfl

theorem val_n (w : Opcode) : w.n.val = w.toNat % 16 := rfl

theorem toNat_kk (w : Opcode) : w.kk.toNat = w.toNat % 256 := by
  simp [kk]

theorem val_nnn (w : Opcode) : w.nnn.val = w.toNat % 4096 := rfl

theorem toNat_ofBytes (high low : UInt8) :
    (ofBytes high low).toNat = 256 * high.toNat + low.toNat := by
  have := high.toNat_lt
  have := low.toNat_lt
  simp only [ofBytes, UInt16.toNat_ofNat']
  omega

/-- Words with the same four digits are the same. -/
theorem ext_digits {w v : Opcode} (hfamily : w.family = v.family) (hx : w.x = v.x) (hy : w.y = v.y)
    (hn : w.n = v.n) : w = v := by
  simp only [Fin.ext_iff, val_family, val_x, val_y, val_n] at hfamily hx hy hn
  apply UInt16.toNat.inj
  omega

/-- The last two digits are the last byte. -/
theorem kk_eq_iff {w v : Opcode} : w.kk = v.kk ↔ w.y = v.y ∧ w.n = v.n := by
  rw [← UInt8.toNat_inj, toNat_kk, toNat_kk, Fin.ext_iff, Fin.ext_iff, val_y, val_y, val_n, val_n]
  omega

end Opcode

end Chip8
