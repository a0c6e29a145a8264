import Chip8.Opcode
import Chip8.Overlay

/-!
# Registers

The sixteen byte registers `V0` to `VF`. The last one doubles as the flag that arithmetic and
drawing set; for every other purpose it is an ordinary register.
-/

namespace Chip8

/-- The sixteen byte registers. -/
structure Registers where
  /-- The values, in the order of the register numbers. -/
  values : Vector UInt8 16
deriving DecidableEq, Repr

namespace Registers

/-- The register that holds the flag. -/
def flag : Nibble := 0xF

/-- All registers zero. -/
def zero : Registers := ⟨Vector.replicate 16 0⟩

/-- The value of a register. -/
def get (r : Registers) (x : Nibble) : UInt8 := r.values[x]

/-- Put a value into a register. -/
def set (r : Registers) (x : Nibble) (value : UInt8) : Registers :=
  ⟨r.values.set x value⟩

/-- Add to a register, modulo 256 and without a flag. -/
def add (r : Registers) (x : Nibble) (value : UInt8) : Registers :=
  r.set x (r.get x + value)

/-- The flag register becomes 1 or 0. -/
def setFlag (r : Registers) (on : Bool) : Registers :=
  r.set flag (if on then 1 else 0)

/-- The values of the registers up to and including one. -/
def upTo (r : Registers) (x : Nibble) : List UInt8 := r.values.toList.take (x.val + 1)

/-- Put a list of values into the registers from `V0` on. -/
def fill (r : Registers) (bytes : List UInt8) : Registers := ⟨overlay r.values 0 bytes⟩

/-- The values of all registers. -/
def toList (r : Registers) : List UInt8 := r.values.toList

@[simp] theorem get_zero (x : Nibble) : zero.get x = 0 := by
  simp [get, zero]

/-- A register that was set holds the value, and no other register changes. -/
theorem get_set (r : Registers) (x z : Nibble) (value : UInt8) :
    (r.set x value).get z = if x = z then value else r.get z := by
  simp [get, set, Vector.getElem_set, Fin.ext_iff]

/-- Registers that hold the same values are the same. -/
theorem ext_get {r r' : Registers} (h : ∀ z, r.get z = r'.get z) : r = r' := by
  obtain ⟨values⟩ := r
  obtain ⟨values'⟩ := r'
  rw [Registers.mk.injEq]
  exact Vector.ext fun i hi => h ⟨i, hi⟩

/-- Setting a register leaves every other one. -/
theorem get_set_of_ne (r : Registers) {x z : Nibble} (h : z ≠ x) (value : UInt8) :
    (r.set x value).get z = r.get z := by
  rw [get_set, if_neg h.symm]

/-- Of two values put into a register the second stays. -/
theorem set_set (r : Registers) (x : Nibble) (a b : UInt8) : (r.set x a).set x b = r.set x b := by
  rw [set, set, set, Vector.set_set]

theorem setFlag_setFlag (r : Registers) (a b : Bool) : (r.setFlag a).setFlag b = r.setFlag b :=
  r.set_set flag _ _

theorem get_setFlag (r : Registers) (on : Bool) (z : Nibble) :
    (r.setFlag on).get z = if flag = z then (if on then 1 else 0) else r.get z :=
  get_set r flag z _

theorem length_upTo (r : Registers) (x : Nibble) : (r.upTo x).length = x.val + 1 := by
  have := x.isLt
  rw [upTo, List.length_take, Vector.length_toList]
  omega

theorem getElem_upTo (r : Registers) (x z : Nibble) (h : z.val < (r.upTo x).length) :
    (r.upTo x)[z.val] = r.get z := by
  simp [upTo, get]

/-- Filling puts one value after the other into the registers and leaves the rest. -/
theorem get_fill (r : Registers) (bytes : List UInt8) (z : Nibble) :
    (r.fill bytes).get z = if h : z.val < bytes.length then bytes[z.val] else r.get z := by
  simp [get, fill, getElem_overlay]

end Registers

end Chip8
