import Chip8.Instruction.Basic

/-!
# Encoding

`Instruction.encode` assembles the word of an instruction. Digits that an instruction does not use
are zero, so an instruction has one encoding even where several words decode to it.
-/

namespace Chip8.Instruction

/-- A word from its family and the twelve bits that follow it. -/
def wordOfAddress (family : Nibble) (target : ShortAddress) : Opcode :=
  UInt16.ofNat (0x1000 * family.val + target.val)

/-- A word from its family, a register number and a constant. -/
def wordOfConstant (family x : Nibble) (kk : UInt8) : Opcode :=
  UInt16.ofNat (0x1000 * family.val + 0x100 * x.val + kk.toNat)

/-- A word from its four digits. -/
def wordOfDigits (family x y n : Nibble) : Opcode :=
  UInt16.ofNat (0x1000 * family.val + 0x100 * x.val + 0x10 * y.val + n.val)

/-- The word of an instruction. -/
def encode : Instruction → Opcode
  | clearScreen => 0x00E0
  | ret => 0x00EE
  | jump target => wordOfAddress 0x1 target
  | call target => wordOfAddress 0x2 target
  | skipIfConstant x kk => wordOfConstant 0x3 x kk
  | skipUnlessConstant x kk => wordOfConstant 0x4 x kk
  | skipIfEqual x y => wordOfDigits 0x5 x y 0x0
  | setConstant x kk => wordOfConstant 0x6 x kk
  | addConstant x kk => wordOfConstant 0x7 x kk
  | copy x y => wordOfDigits 0x8 x y 0x0
  | or x y => wordOfDigits 0x8 x y 0x1
  | and x y => wordOfDigits 0x8 x y 0x2
  | xor x y => wordOfDigits 0x8 x y 0x3
  | add x y => wordOfDigits 0x8 x y 0x4
  | subtract x y => wordOfDigits 0x8 x y 0x5
  | shiftRight x y => wordOfDigits 0x8 x y 0x6
  | subtractFrom x y => wordOfDigits 0x8 x y 0x7
  | shiftLeft x y => wordOfDigits 0x8 x y 0xE
  | skipUnlessEqual x y => wordOfDigits 0x9 x y 0x0
  | setIndex target => wordOfAddress 0xA target
  | jumpOffset target => wordOfAddress 0xB target
  | random x mask => wordOfConstant 0xC x mask
  | draw x y n => wordOfDigits 0xD x y n
  | skipIfHeld x => wordOfConstant 0xE x 0x9E
  | skipUnlessHeld x => wordOfConstant 0xE x 0xA1
  | getDelay x => wordOfConstant 0xF x 0x07
  | awaitKey x => wordOfConstant 0xF x 0x0A
  | setDelay x => wordOfConstant 0xF x 0x15
  | setSound x => wordOfConstant 0xF x 0x18
  | addIndex x => wordOfConstant 0xF x 0x1E
  | pointGlyph x => wordOfConstant 0xF x 0x29
  | storeDecimal x => wordOfConstant 0xF x 0x33
  | storeRegisters x => wordOfConstant 0xF x 0x55
  | loadRegisters x => wordOfConstant 0xF x 0x65
  | unmapped word => word

/-! ## The digits of an assembled word -/

theorem toNat_wordOfAddress (family : Nibble) (target : ShortAddress) :
    (wordOfAddress family target).toNat = 0x1000 * family.val + target.val := by
  have := family.isLt
  have := target.isLt
  rw [wordOfAddress, UInt16.toNat_ofNat']
  omega

theorem toNat_wordOfConstant (family x : Nibble) (kk : UInt8) :
    (wordOfConstant family x kk).toNat = 0x1000 * family.val + 0x100 * x.val + kk.toNat := by
  have := family.isLt
  have := x.isLt
  have := kk.toNat_lt
  rw [wordOfConstant, UInt16.toNat_ofNat']
  omega

theorem toNat_wordOfDigits (family x y n : Nibble) :
    (wordOfDigits family x y n).toNat =
      0x1000 * family.val + 0x100 * x.val + 0x10 * y.val + n.val := by
  have := family.isLt
  have := x.isLt
  have := y.isLt
  have := n.isLt
  rw [wordOfDigits, UInt16.toNat_ofNat']
  omega

@[simp] theorem family_wordOfAddress (family : Nibble) (target : ShortAddress) :
    (wordOfAddress family target).family = family := by
  rw [Fin.ext_iff, Opcode.val_family, toNat_wordOfAddress]
  omega

@[simp] theorem nnn_wordOfAddress (family : Nibble) (target : ShortAddress) :
    (wordOfAddress family target).nnn = target := by
  rw [Fin.ext_iff, Opcode.val_nnn, toNat_wordOfAddress]
  omega

@[simp] theorem family_wordOfConstant (family x : Nibble) (kk : UInt8) :
    (wordOfConstant family x kk).family = family := by
  have := kk.toNat_lt
  rw [Fin.ext_iff, Opcode.val_family, toNat_wordOfConstant]
  omega

@[simp] theorem x_wordOfConstant (family x : Nibble) (kk : UInt8) :
    (wordOfConstant family x kk).x = x := by
  have := kk.toNat_lt
  rw [Fin.ext_iff, Opcode.val_x, toNat_wordOfConstant]
  omega

@[simp] theorem kk_wordOfConstant (family x : Nibble) (kk : UInt8) :
    (wordOfConstant family x kk).kk = kk := by
  have := kk.toNat_lt
  apply UInt8.toNat.inj
  rw [Opcode.toNat_kk, toNat_wordOfConstant]
  omega

@[simp] theorem family_wordOfDigits (family x y n : Nibble) :
    (wordOfDigits family x y n).family = family := by
  rw [Fin.ext_iff, Opcode.val_family, toNat_wordOfDigits]
  omega

@[simp] theorem x_wordOfDigits (family x y n : Nibble) : (wordOfDigits family x y n).x = x := by
  rw [Fin.ext_iff, Opcode.val_x, toNat_wordOfDigits]
  omega

@[simp] theorem y_wordOfDigits (family x y n : Nibble) : (wordOfDigits family x y n).y = y := by
  rw [Fin.ext_iff, Opcode.val_y, toNat_wordOfDigits]
  omega

@[simp] theorem n_wordOfDigits (family x y n : Nibble) : (wordOfDigits family x y n).n = n := by
  rw [Fin.ext_iff, Opcode.val_n, toNat_wordOfDigits]
  omega

/-- A word is assembled from its own digits. -/
theorem wordOfAddress_nnn (w : Opcode) : wordOfAddress w.family w.nnn = w := by
  apply UInt16.toNat.inj
  rw [toNat_wordOfAddress, Opcode.val_family, Opcode.val_nnn]
  omega

theorem wordOfConstant_kk (w : Opcode) : wordOfConstant w.family w.x w.kk = w := by
  apply UInt16.toNat.inj
  rw [toNat_wordOfConstant, Opcode.val_family, Opcode.val_x, Opcode.toNat_kk]
  omega

theorem wordOfDigits_n (w : Opcode) : wordOfDigits w.family w.x w.y w.n = w :=
  Opcode.ext_digits (by simp) (by simp) (by simp) (by simp)

end Chip8.Instruction
