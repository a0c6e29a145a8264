import Chip8.Instruction.Decode
import Chip8.Instruction.Encode
import Mathlib.Algebra.Ring.Nat
import Mathlib.Data.Fintype.Basic
import Mathlib.Tactic.FinCases

/-!
# Decoding and encoding

Encoding an instruction and decoding the word gives the instruction back. The other way round some
digits are lost: the second digit of the words `0?E0` and `0?EE`, and the last digit in families `5`
and `9`. `Opcode.SameUsedDigits` relates words that differ in these at most. Every word is related
in this way to the encoding of its meaning (`Instruction.encode_decode`), and the relation is an
equivalence, so words that mean the same are related; the converse is a look at the few words that
have such digits (`Instruction.decode_eq_iff`). The words that mean nothing are listed by
`Opcode.Unassigned`.

The last part retells decoding for a computer that takes a word apart by masks and shifts, holds the
digits in bytes, and gives up on a digit above fifteen. It never does (`decodeGuarded?_eq_some`).
-/

namespace Chip8

/-! ## Digits without a meaning -/

namespace Opcode

/-- The second digit has no part in the meaning of the word. -/
def IgnoresX (w : Opcode) : Prop := w.family = 0x0 ∧ (w.kk = 0xE0 ∨ w.kk = 0xEE)

/-- The last digit has no part in the meaning of the word. -/
def IgnoresN (w : Opcode) : Prop := w.family = 0x5 ∨ w.family = 0x9

/-- The words differ at most in digits that have no part in their meaning. -/
structure SameUsedDigits (w v : Opcode) : Prop where
  family_eq : w.family = v.family
  x_eq : ¬ w.IgnoresX → w.x = v.x
  y_eq : w.y = v.y
  n_eq : ¬ w.IgnoresN → w.n = v.n

namespace SameUsedDigits

variable {u v w : Opcode}

theorem refl (w : Opcode) : SameUsedDigits w w := ⟨rfl, fun _ => rfl, rfl, fun _ => rfl⟩

theorem of_eq (h : w = v) : SameUsedDigits w v := h ▸ refl w

/-- In family `0` the last byte is used as a whole. -/
theorem kk_eq (h : SameUsedDigits w v) (hfamily : w.family = 0x0) : w.kk = v.kk := by
  have hn : ¬ w.IgnoresN := by
    rw [IgnoresN, hfamily]
    decide
  exact kk_eq_iff.2 ⟨h.y_eq, h.n_eq hn⟩

/-- Which digits have no part shows in those that have. -/
theorem ignoresX_iff (h : SameUsedDigits w v) : w.IgnoresX ↔ v.IgnoresX := by
  rw [IgnoresX, IgnoresX, ← h.family_eq]
  refine and_congr_right fun hfamily => ?_
  rw [h.kk_eq hfamily]

theorem ignoresN_iff (h : SameUsedDigits w v) : w.IgnoresN ↔ v.IgnoresN := by
  rw [IgnoresN, IgnoresN, h.family_eq]

theorem symm (h : SameUsedDigits w v) : SameUsedDigits v w where
  family_eq := h.family_eq.symm
  x_eq hx := (h.x_eq (mt h.ignoresX_iff.1 hx)).symm
  y_eq := h.y_eq.symm
  n_eq hn := (h.n_eq (mt h.ignoresN_iff.1 hn)).symm

theorem trans (h : SameUsedDigits u v) (h' : SameUsedDigits v w) : SameUsedDigits u w where
  family_eq := h.family_eq.trans h'.family_eq
  x_eq hx := (h.x_eq hx).trans (h'.x_eq (mt h.ignoresX_iff.2 hx))
  y_eq := h.y_eq.trans h'.y_eq
  n_eq hn := (h.n_eq hn).trans (h'.n_eq (mt h.ignoresN_iff.2 hn))

end SameUsedDigits

end Opcode

namespace Instruction

open Opcode

variable {w v : Opcode}

/-! ## There and back -/

/-- The word of an instruction means the instruction. -/
theorem decode_encode {i : Instruction} (h : ∀ word, i ≠ .unmapped word) : decode i.encode = i := by
  cases i
  case unmapped word => exact absurd rfl (h word)
  case clearScreen | ret => decide
  all_goals simp [encode, decode, decodeArithmetic, decodeKeypad, decodeTransfer]

/-- In family `0` the second digit of two words is lost. -/
theorem encode_decodeControl (hfamily : w.family = 0x0) :
    SameUsedDigits (decodeControl w).encode w := by
  have hlost {v : Opcode} (hv : v.family = 0x0) (hx : v.IgnoresX) (hkk : w.kk = v.kk) :
      SameUsedDigits v w := by
    obtain ⟨hy, hn⟩ := kk_eq_iff.1 hkk
    exact ⟨hv.trans hfamily.symm, absurd hx, hy.symm, fun _ => hn.symm⟩
  unfold decodeControl
  split
  case h_1 hkk => exact hlost (by decide) ⟨by decide, .inl (by decide)⟩ hkk
  case h_2 hkk => exact hlost (by decide) ⟨by decide, .inr (by decide)⟩ hkk
  case h_3 => exact .refl w

theorem encode_decodeArithmetic (hfamily : w.family = 0x8) : (decodeArithmetic w).encode = w := by
  have hword := wordOfDigits_n w
  rw [hfamily] at hword
  unfold decodeArithmetic
  split
  case h_10 => rfl
  all_goals
    rename_i hn
    rw [hn] at hword
    exact hword

theorem encode_decodeKeypad (hfamily : w.family = 0xE) : (decodeKeypad w).encode = w := by
  have hword := wordOfConstant_kk w
  rw [hfamily] at hword
  unfold decodeKeypad
  split
  case h_3 => rfl
  all_goals
    rename_i hkk
    rw [hkk] at hword
    exact hword

theorem encode_decodeTransfer (hfamily : w.family = 0xF) : (decodeTransfer w).encode = w := by
  have hword := wordOfConstant_kk w
  rw [hfamily] at hword
  unfold decodeTransfer
  split
  case h_10 => rfl
  all_goals
    rename_i hkk
    rw [hkk] at hword
    exact hword

/-- Encoding the meaning of a word gives the word again, up to digits that have no part in it. -/
theorem encode_decode (w : Opcode) : SameUsedDigits (decode w).encode w := by
  have haddress := wordOfAddress_nnn w
  have hconstant := wordOfConstant_kk w
  have hdigits := wordOfDigits_n w
  unfold decode
  split <;> rename_i hfamily
  case h_1 => exact encode_decodeControl hfamily
  case h_2 | h_3 | h_11 | h_12 =>
    rw [hfamily] at haddress
    exact .of_eq haddress
  case h_4 | h_5 | h_7 | h_8 | h_13 =>
    rw [hfamily] at hconstant
    exact .of_eq hconstant
  case h_6 | h_10 =>
    -- the last digit is encoded as zero, whatever it was
    exact {
      family_eq := by simp [encode, hfamily]
      x_eq := fun _ => by simp [encode]
      y_eq := by simp [encode]
      n_eq := absurd (by simp [encode, IgnoresN]) }
  case h_9 => exact .of_eq (encode_decodeArithmetic hfamily)
  case h_14 =>
    rw [hfamily] at hdigits
    exact .of_eq hdigits
  case h_15 => exact .of_eq (encode_decodeKeypad hfamily)
  case h_16 =>
    have hlast : w.family = 0xF := by grind
    exact .of_eq (encode_decodeTransfer hlast)

/-! ## Words that mean the same -/

/-- Digits that have no part in the meaning of a word make no difference to it. -/
theorem decode_eq_of_sameUsedDigits (h : SameUsedDigits w v) : decode w = decode v := by
  by_cases hx : w.IgnoresX
  · unfold decode decodeControl
    rw [← h.family_eq, hx.1, ← h.kk_eq hx.1]
    rcases hx.2 with hkk | hkk <;> rw [hkk] <;> rfl
  by_cases hn : w.IgnoresN
  · unfold decode
    rw [← h.family_eq, h.x_eq hx, h.y_eq]
    rcases hn with hfamily | hfamily <;> rw [hfamily] <;> rfl
  -- all digits are used, so there is only one word
  rw [ext_digits h.family_eq (h.x_eq hx) h.y_eq (h.n_eq hn)]

/-- Two words mean the same if and only if they differ at most in digits without a part in it. -/
theorem decode_eq_iff : decode w = decode v ↔ SameUsedDigits w v := by
  refine ⟨fun h => ?_, decode_eq_of_sameUsedDigits⟩
  have hw := encode_decode w
  rw [h] at hw
  exact hw.symm.trans (encode_decode v)

end Instruction

/-! ## Words without a meaning -/

/-- The words that have no meaning. -/
inductive Opcode.Unassigned (w : Opcode) : Prop
  | control (hfamily : w.family = 0x0) (hkk : w.kk ∉ [0xE0, 0xEE])
  | arithmetic (hfamily : w.family = 0x8) (hn : 0x8 ≤ w.n ∧ w.n ≤ 0xD ∨ w.n = 0xF)
  | keypad (hfamily : w.family = 0xE) (hkk : w.kk ∉ [0x9E, 0xA1])
  | transfer (hfamily : w.family = 0xF)
    (hkk : w.kk ∉ [0x07, 0x0A, 0x15, 0x18, 0x1E, 0x29, 0x33, 0x55, 0x65])

namespace Instruction

open Opcode

variable {w v : Opcode}

theorem decodeControl_eq_unmapped_iff :
    decodeControl w = .unmapped v ↔ w.kk ∉ [0xE0, 0xEE] ∧ v = w := by
  unfold decodeControl
  split <;> simp_all [eq_comm]

theorem decodeArithmetic_eq_unmapped_iff :
    decodeArithmetic w = .unmapped v ↔ (0x8 ≤ w.n ∧ w.n ≤ 0xD ∨ w.n = 0xF) ∧ v = w := by
  unfold decodeArithmetic
  split <;> grind

theorem decodeKeypad_eq_unmapped_iff :
    decodeKeypad w = .unmapped v ↔ w.kk ∉ [0x9E, 0xA1] ∧ v = w := by
  unfold decodeKeypad
  split <;> simp_all [eq_comm]

theorem decodeTransfer_eq_unmapped_iff :
    decodeTransfer w = .unmapped v ↔
      w.kk ∉ [0x07, 0x0A, 0x15, 0x18, 0x1E, 0x29, 0x33, 0x55, 0x65] ∧ v = w := by
  unfold decodeTransfer
  split <;> simp_all [eq_comm]

/-- The words without a meaning are decoded as themselves, and no others are. -/
theorem decode_eq_unmapped_iff : decode w = .unmapped v ↔ w.Unassigned ∧ v = w := by
  constructor
  · intro h
    unfold decode at h
    split at h <;> rename_i hfamily
    case h_1 =>
      obtain ⟨hkk, rfl⟩ := decodeControl_eq_unmapped_iff.1 h
      exact ⟨.control hfamily hkk, rfl⟩
    case h_9 =>
      obtain ⟨hn, rfl⟩ := decodeArithmetic_eq_unmapped_iff.1 h
      exact ⟨.arithmetic hfamily hn, rfl⟩
    case h_15 =>
      obtain ⟨hkk, rfl⟩ := decodeKeypad_eq_unmapped_iff.1 h
      exact ⟨.keypad hfamily hkk, rfl⟩
    case h_16 =>
      have hlast : w.family = 0xF := by grind
      obtain ⟨hkk, rfl⟩ := decodeTransfer_eq_unmapped_iff.1 h
      exact ⟨.transfer hlast hkk, rfl⟩
    all_goals cases h
  · rintro ⟨hunassigned, rfl⟩
    unfold decode
    cases hunassigned with
    | control hfamily hkk =>
      rw [hfamily]
      exact decodeControl_eq_unmapped_iff.2 ⟨hkk, rfl⟩
    | arithmetic hfamily hn =>
      rw [hfamily]
      exact decodeArithmetic_eq_unmapped_iff.2 ⟨hn, rfl⟩
    | keypad hfamily hkk =>
      rw [hfamily]
      exact decodeKeypad_eq_unmapped_iff.2 ⟨hkk, rfl⟩
    | transfer hfamily hkk =>
      rw [hfamily]
      exact decodeTransfer_eq_unmapped_iff.2 ⟨hkk, rfl⟩

end Instruction

/-! ## Masks, shifts and digits in bytes -/

/-- The digit that a byte holds, if it holds one. -/
def Nibble.ofByte? (b : UInt8) : Option Nibble :=
  if h : b.toNat < 16 then some ⟨b.toNat, h⟩ else none

/-- The short address that an address is, if it is one. -/
def ShortAddress.ofAddress? (a : Address) : Option ShortAddress :=
  if h : a.toNat < 4096 then some ⟨a.toNat, h⟩ else none

/-- Some bits of a word, moved down, as a byte. -/
def Opcode.field (w : Opcode) (mask shift : UInt16) : UInt8 := ((w &&& mask) >>> shift).toUInt8

/-- The meaning of a word that is taken apart by masks and shifts. There is none if a digit is
above fifteen, an address above `0xFFF`, or the family none of the sixteen. -/
def Instruction.decodeGuarded? (w : Opcode) : Option Instruction := do
  let x ← Nibble.ofByte? (w.field 0x0F00 8)
  let y ← Nibble.ofByte? (w.field 0x00F0 4)
  let n ← Nibble.ofByte? (w.field 0x000F 0)
  let kk := w.field 0x00FF 0
  let nnn ← ShortAddress.ofAddress? (w &&& 0x0FFF)
  match w.field 0xF000 12 with
  | 0x0 =>
    return match kk with
    | 0xE0 => clearScreen
    | 0xEE => ret
    | _ => unmapped w
  | 0x1 => return jump nnn
  | 0x2 => return call nnn
  | 0x3 => return skipIfConstant x kk
  | 0x4 => return skipUnlessConstant x kk
  | 0x5 => return skipIfEqual x y
  | 0x6 => return setConstant x kk
  | 0x7 => return addConstant x kk
  | 0x8 =>
    return match n with
    | 0x0 => copy x y
    | 0x1 => or x y
    | 0x2 => and x y
    | 0x3 => xor x y
    | 0x4 => add x y
    | 0x5 => subtract x y
    | 0x6 => shiftRight x y
    | 0x7 => subtractFrom x y
    | 0xE => shiftLeft x y
    | _ => unmapped w
  | 0x9 => return skipUnlessEqual x y
  | 0xA => return setIndex nnn
  | 0xB => return jumpOffset nnn
  | 0xC => return random x kk
  | 0xD => return draw x y n
  | 0xE =>
    return match kk with
    | 0x9E => skipIfHeld x
    | 0xA1 => skipUnlessHeld x
    | _ => unmapped w
  | 0xF =>
    return match kk with
    | 0x07 => getDelay x
    | 0x0A => awaitKey x
    | 0x15 => setDelay x
    | 0x18 => setSound x
    | 0x1E => addIndex x
    | 0x29 => pointGlyph x
    | 0x33 => storeDecimal x
    | 0x55 => storeRegisters x
    | 0x65 => loadRegisters x
    | _ => unmapped w
  | _ => none

theorem Nibble.ofByte?_eq_some {b : UInt8} {n : Nibble} (h : b.toNat = n.val) :
    ofByte? b = some n := by
  rw [ofByte?, dif_pos (h ▸ n.isLt)]
  exact congrArg some (Fin.ext h)

theorem ShortAddress.ofAddress?_eq_some {a : Address} {target : ShortAddress}
    (h : a.toNat = target.val) : ofAddress? a = some target := by
  rw [ofAddress?, dif_pos (h ▸ target.isLt)]
  exact congrArg some (Fin.ext h)

namespace Opcode

/-- A mask of some bits in a row and the shift that moves them down give these bits. -/
theorem toNat_field (w : Opcode) (bits : Nat) {mask shift : UInt16} (hbits : bits ≤ 8)
    (hshift : shift.toNat < 16) (hmask : mask.toNat = (2 ^ bits - 1) <<< shift.toNat) :
    (w.field mask shift).toNat = w.toNat / 2 ^ shift.toNat % 2 ^ bits := by
  have hpow : 2 ^ bits ≤ 2 ^ 8 := Nat.pow_le_pow_right (by decide) hbits
  have hlt : w.toNat / 2 ^ shift.toNat % 2 ^ bits < 2 ^ bits := Nat.mod_lt _ (Nat.two_pow_pos _)
  rw [field, UInt16.toNat_toUInt8, UInt16.toNat_shiftRight, UInt16.toNat_and,
    Nat.mod_eq_of_lt hshift, hmask, Nat.shiftRight_and_distrib, Nat.shiftLeft_shiftRight,
    Nat.and_two_pow_sub_one_eq_mod, Nat.shiftRight_eq_div_pow]
  exact Nat.mod_eq_of_lt (hlt.trans_le hpow)

end Opcode

namespace Instruction

open Opcode

/-- All digits are digits and all families are known, so that every word is decoded. -/
theorem decodeGuarded?_eq_some (w : Opcode) : decodeGuarded? w = some (decode w) := by
  have hx : Nibble.ofByte? (w.field 0x0F00 8) = some w.x :=
    Nibble.ofByte?_eq_some (w.toNat_field 4 (by decide) (by decide) rfl)
  have hy : Nibble.ofByte? (w.field 0x00F0 4) = some w.y :=
    Nibble.ofByte?_eq_some (w.toNat_field 4 (by decide) (by decide) rfl)
  have hn : Nibble.ofByte? (w.field 0x000F 0) = some w.n := by
    refine Nibble.ofByte?_eq_some ((w.toNat_field 4 (by decide) (by decide) rfl).trans ?_)
    rw [val_n]
    simp
  have hkk : w.field 0x00FF 0 = w.kk := by
    apply UInt8.toNat.inj
    rw [w.toNat_field 8 (by decide) (by decide) rfl, toNat_kk]
    simp
  have hnnn : ShortAddress.ofAddress? (w &&& 0x0FFF) = some w.nnn := by
    apply ShortAddress.ofAddress?_eq_some
    rw [UInt16.toNat_and]
    exact Nat.and_two_pow_sub_one_eq_mod w.toNat 12
  have hfamily : w.field 0xF000 12 = w.family.toByte := by
    apply UInt8.toNat.inj
    rw [w.toNat_field 4 (by decide) (by decide) rfl, Nibble.toNat_toByte]
    rfl
  rw [decodeGuarded?, hx, hy, hn, hkk, hnnn, hfamily]
  unfold decode
  generalize w.family = family
  fin_cases family <;> rfl

/-- Decoding takes back what encoding does. A word means nothing, or its meaning encodes to the
same word up to digits without a part in it; two words have one meaning if and only if they differ
in such digits only. The words that mean nothing are the unassigned ones. Taking a word apart by
masks gives digits and addresses in their ranges and one of the sixteen families, each time. -/
theorem decode_inverts_encode (i : Instruction) (w v : Opcode) :
    ((∀ word, i ≠ .unmapped word) → decode i.encode = i) ∧
      (decode w = .unmapped w ∨
        (∀ word, decode w ≠ .unmapped word) ∧ SameUsedDigits w (decode w).encode) ∧
      (decode w = decode v ↔ SameUsedDigits w v) ∧
      (decode w = .unmapped v ↔ w.Unassigned ∧ v = w) ∧
      decodeGuarded? w = some (decode w) := by
  refine ⟨decode_encode, ?_, decode_eq_iff, decode_eq_unmapped_iff, decodeGuarded?_eq_some w⟩
  by_cases hunassigned : w.Unassigned
  · exact .inl (decode_eq_unmapped_iff.2 ⟨hunassigned, rfl⟩)
  · have hmapped (word : Opcode) : decode w ≠ .unmapped word := fun h =>
      hunassigned (decode_eq_unmapped_iff.1 h).1
    exact .inr ⟨hmapped, (encode_decode w).symm⟩

/-- The last digit of a comparison of two registers has no part in its meaning, and is encoded as
zero. The last digit of a draw has one. -/
theorem decode_inverts_encode_unused_digit :
    decode 0x5127 = decode 0x512F ∧ SameUsedDigits 0x5127 (decode 0x5127).encode ∧
      decode 0xD127 ≠ decode 0xD12F ∧ decode (Instruction.draw 1 2 7).encode = .draw 1 2 7 := by
  have hused : ¬ SameUsedDigits 0xD127 0xD12F := fun h =>
    absurd (h.n_eq (by unfold IgnoresN; decide)) (by decide)
  have hsame : SameUsedDigits 0x5127 0x512F :=
    ⟨by decide, fun _ => by decide, by decide, absurd (.inl (by decide))⟩
  obtain ⟨hdraw, -, hdraws, -⟩ := decode_inverts_encode (.draw 1 2 7) 0xD127 0xD12F
  obtain ⟨-, hmeans, hcompares, -⟩ := decode_inverts_encode (.draw 1 2 7) 0x5127 0x512F
  refine ⟨hcompares.2 hsame, ?_, mt hdraws.1 hused, hdraw (by simp)⟩
  exact (hmeans.resolve_left (by decide)).2

end Instruction

end Chip8
