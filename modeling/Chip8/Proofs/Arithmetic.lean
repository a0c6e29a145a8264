import Chip8.Display.Bitmap
import Chip8.Proofs.Frame

/-!
# Arithmetic and its flag

Five instructions compute a byte from two registers and set the flag. `Arithmetic.Balances` states
for each of them an equation over the integers, in which result and flag together hold all that the
operands hold; bytes balance (`balances_value`). An instruction writes the result first and the flag
after it, from operands read before either, so the equation holds whichever registers coincide, but
for a result that goes into the flag register: there the flag stays.
-/

namespace Chip8

/-! ## Bytes -/

/-- The arithmetic that sets the flag. -/
inductive Arithmetic where
  | add
  | subtract
  | subtractFrom
  | shiftRight
  | shiftLeft
deriving DecidableEq, Repr

namespace Arithmetic

/-- The instruction that computes on two registers. -/
def instruction : Arithmetic → Nibble → Nibble → Instruction
  | add => .add
  | subtract => .subtract
  | subtractFrom => .subtractFrom
  | shiftRight => .shiftRight
  | shiftLeft => .shiftLeft

/-- The last digit of the words that stand for it. -/
def lastDigit : Arithmetic → Nibble
  | add => 0x4
  | subtract => 0x5
  | shiftRight => 0x6
  | subtractFrom => 0x7
  | shiftLeft => 0xE

/-- The flag for the values of the two registers and the value that is shifted: a carry, no borrow,
or the bit that is shifted out. -/
def flag (a b s : UInt8) : Arithmetic → Bool
  | add => decide (256 ≤ a.toNat + b.toNat)
  | subtract => decide (b.toNat ≤ a.toNat)
  | subtractFrom => decide (a.toNat ≤ b.toNat)
  | shiftRight => s.toNat.testBit 0
  | shiftLeft => s.toNat.testBit 7

/-- The equation between a result and its flag and the values that they are computed from. -/
def Balances (a b s result flag : Int) : Arithmetic → Prop
  | add => result + 256 * flag = a + b
  | subtract => result = a - b + 256 * (1 - flag)
  | subtractFrom => result = b - a + 256 * (1 - flag)
  | shiftRight => s = 2 * result + flag
  | shiftLeft => 2 * s = result + 256 * flag

/-- The result. -/
def value (a b s : UInt8) : Arithmetic → UInt8
  | add => a + b
  | subtract => a - b
  | subtractFrom => b - a
  | shiftRight => s >>> 1
  | shiftLeft => s <<< 1

/-- In family `8` the last digit selects the arithmetic. -/
theorem decode_eq_instruction (op : Arithmetic) {word : Opcode} (hfamily : word.family = 0x8)
    (hdigit : word.n = op.lastDigit) :
    Instruction.decode word = op.instruction word.x word.y := by
  unfold Instruction.decode Instruction.decodeArithmetic
  rw [hfamily, hdigit]
  cases op <;> rfl

/-- The highest bit of a byte is set from 128 on. -/
theorem testBit_seven (s : UInt8) : s.toNat.testBit 7 = decide (128 ≤ s.toNat) := by
  have := s.toNat_lt
  rw [Nat.testBit_eq_decide_div_mod_eq, decide_eq_decide]
  omega

/-- A difference that borrows is too large by 256. -/
theorem toNat_sub_eq (a b : UInt8) :
    ((a - b).toNat : Int) = a.toNat - b.toNat + 256 * (1 - if b.toNat ≤ a.toNat then 1 else 0) := by
  have := a.toNat_lt
  have := b.toNat_lt
  rw [UInt8.toNat_sub]
  split <;> omega

/-- The result of each kind of arithmetic balances with its flag. -/
theorem balances_value (op : Arithmetic) (a b s : UInt8) :
    op.Balances a.toNat b.toNat s.toNat (op.value a b s).toNat
      (if op.flag a b s then 1 else 0) := by
  have ha := a.toNat_lt
  have hb := b.toNat_lt
  have hs := s.toNat_lt
  cases op with
  | add =>
    simp only [Balances, value, flag, UInt8.toNat_add, decide_eq_true_eq]
    split <;> omega
  | subtract =>
    simp only [Balances, value, flag, decide_eq_true_eq]
    exact toNat_sub_eq a b
  | subtractFrom =>
    simp only [Balances, value, flag, decide_eq_true_eq]
    exact toNat_sub_eq b a
  | shiftRight =>
    have hhalf : (s >>> 1).toNat = s.toNat / 2 := by simp [Nat.shiftRight_eq_div_pow]
    simp only [Balances, value, flag, hhalf, Nat.testBit_zero, decide_eq_true_eq]
    split <;> omega
  | shiftLeft =>
    have hdouble : (s <<< 1).toNat = s.toNat * 2 % 256 := by simp [Nat.shiftLeft_eq]
    simp only [Balances, value, flag, hdouble, testBit_seven, decide_eq_true_eq]
    split <;> omega

end Arithmetic

namespace Machine

/-! ## The flag register -/

section

variable {D K : Type} (m : Machine D K)

/-- The flag has the last word, also where the result went into its register. -/
theorem get_flag_setResult (x : Nibble) (value : UInt8) (flag : Bool) :
    (m.setResult x value flag).registers.get Registers.flag = if flag then 1 else 0 := by
  unfold setResult
  rw [Registers.get_setFlag, if_pos rfl]

/-- A result stays in its register, if this is not that of the flag. -/
theorem get_setResult {x : Nibble} (hx : x ≠ Registers.flag) (value : UInt8) (flag : Bool) :
    (m.setResult x value flag).registers.get x = value := by
  unfold setResult
  rw [Registers.get_setFlag, if_neg hx.symm, Registers.get_set, if_pos rfl]

end

/-! ## The instructions -/

variable {D K : Type} [Display D] [KeySource K]

/-- Every arithmetic instruction puts the result and then the flag into their registers. -/
theorem execute_arithmetic (m : Machine D K) (op : Arithmetic) (x y : Nibble) :
    m.execute (op.instruction x y) =
      done (m.setResult x
        (op.value (m.registers.get x) (m.registers.get y) (m.shiftOperand x y))
        (op.flag (m.registers.get x) (m.registers.get y) (m.shiftOperand x y))) := by
  cases op with
  | add | subtract | subtractFrom => rfl
  | shiftRight =>
    simp only [Arithmetic.flag, Nat.testBit_zero]
    rfl
  | shiftLeft =>
    simp only [Arithmetic.flag, Arithmetic.testBit_seven]
    rfl

/-- What an arithmetic instruction makes of a machine. -/
theorem executes_arithmetic (m : Machine D K) (op : Arithmetic) (x y : Nibble) :
    m.Executes (op.instruction x y) (m.setResult x
      (op.value (m.registers.get x) (m.registers.get y) (m.shiftOperand x y))
      (op.flag (m.registers.get x) (m.registers.get y) (m.shiftOperand x y))) :=
  .of_afterFetch (m.execute_arithmetic op x y) fun word =>
    (m.afterFetch word).execute_arithmetic op x y

/-- **Arithmetic is exact.** The words of family `8` that end in the digit of an arithmetic
instruction stand for it, on the registers that they name. The instruction sets the flag register to
the flag of its operands, which are read before anything is written, whichever registers coincide.
If the result does not go into the flag register, it balances with the flag; otherwise it is lost.
No other register changes, and nothing else. What a shift shifts is a matter of the configuration.
-/
theorem arithmetic_balances (m : Machine D K) (op : Arithmetic) (x y : Nibble) :
    let a := m.registers.get x
    let b := m.registers.get y
    let s := if m.config.shiftSource = .vx then a else b
    (∀ word : Opcode, word.family = 0x8 → word.n = op.lastDigit → word.x = x → word.y = y →
      Instruction.decode word = op.instruction x y) ∧
    ∃ m₁ : Machine D K,
      m.Executes (op.instruction x y) m₁ ∧
      m₁ = { m with registers := m₁.registers } ∧
      m₁.registers.get Registers.flag = (if op.flag a b s then 1 else 0) ∧
      (x ≠ Registers.flag →
        op.Balances a.toNat b.toNat s.toNat (m₁.registers.get x).toNat
          (m₁.registers.get Registers.flag).toNat) ∧
      ∀ z, z ≠ x → z ≠ Registers.flag → m₁.registers.get z = m.registers.get z := by
  intro a b s
  have hoperand : m.shiftOperand x y = s := by
    unfold shiftOperand
    cases hsource : m.config.shiftSource <;> simp [s, hsource, a, b]
  have hexecutes := m.executes_arithmetic op x y
  rw [hoperand] at hexecutes
  have hflag := m.get_flag_setResult x (op.value a b s) (op.flag a b s)
  refine ⟨?_, _, hexecutes, rfl, hflag, fun hx => ?_, fun z hz hzflag => ?_⟩
  · rintro word hfamily hdigit rfl rfl
    exact op.decode_eq_instruction hfamily hdigit
  · have hbalances := op.balances_value a b s
    rw [m.get_setResult hx, hflag]
    cases hcase : op.flag a b s <;> simpa [hcase] using hbalances
  · have htargets : z ∉ (op.instruction x y).targets := by
      cases op <;> simp [Arithmetic.instruction, Instruction.targets, hz, hzflag]
    exact (framed_execute hexecutes.execute_eq).register_eq z htargets

/-- Shifting what the flag register holds, `0x81`, to the left into another register. -/
theorem arithmetic_balances_shifted_flag :
    ∃ m : Machine FrameBuffer Keypad, m.Reachable ∧
      m.nextInstruction? = some (.shiftLeft 3 0xF) ∧ m.registers.get 0xF = 0x81 ∧
      m.step.machine.registers.get 0xF = 1 ∧
      (2 * 0x81 : Int) = (m.step.machine.registers.get 3).toNat + 256 * 1 ∧
      m.step.machine.registers.get 4 = m.registers.get 4 := by
  let m : Machine FrameBuffer Keypad :=
    (create ⟨.vy, 0, some 8⟩ (Bitmap.blank 64 32) .released (Vector.replicate 8 0)).after
      [.load [0x6F, 0x81, 0x83, 0xFE], .step]
  have hrun : m.config.shiftSource = .vy ∧ m.nextInstruction? = some (.shiftLeft 3 0xF) ∧
      m.registers.get 0xF = 0x81 := by decide +kernel
  obtain ⟨hsource, hnext, hoperand⟩ := hrun
  have hreachable : m.Reachable := ⟨_, _, _, _, _, rfl⟩
  -- from here on only the facts about the machine count, not how it came about
  clear_value m
  have hshifted : (if m.config.shiftSource = .vx then m.registers.get 3
      else m.registers.get 0xF) = 0x81 := by
    rw [hsource, hoperand]
    rfl
  obtain ⟨-, m₁, hexecutes, -, hflag, hbalances, hothers⟩ := m.arithmetic_balances .shiftLeft 3 0xF
  obtain ⟨word, hreply⟩ := hexecutes.step_eq hnext
  have hregisters : m.step.machine.registers = m₁.registers := by rw [hreply]; rfl
  have hone : m₁.registers.get Registers.flag = 1 := by
    rw [hflag, hshifted]
    rfl
  have hequation := hbalances (by decide)
  rw [hshifted, hone] at hequation
  refine ⟨m, hreachable, hnext, hoperand, ?_, ?_, ?_⟩ <;> rw [hregisters]
  · exact hone
  · exact hequation
  · exact hothers 4 (by decide) (by decide)

end Machine

end Chip8
