import Chip8.Opcode
import Chip8.Text.Hex
import Chip8.Text.Quoted

/-!
# Faults

What can go wrong: a program that cannot be loaded, and an instruction that cannot be executed. Each
fault holds what caused it; `Fault.text` is its wording. Faults can be compared, and so can the
results that hold one.
-/

namespace Chip8

/-- The cause of a failure. -/
inductive Fault where
  /-- The file of a program cannot be read. -/
  | unreadableProgram (path : String)
  /-- A program has more bytes than fit into memory. -/
  | programTooLarge (size limit : Nat)
  /-- An access touches an address that memory does not have; this is the first such address. -/
  | addressOutOfRange (address : Nat)
  /-- The instruction at an address calls while sixteen calls are open. -/
  | stackOverflow (pc : Address)
  /-- The instruction at an address goes back while no call is open. -/
  | stackUnderflow (pc : Address)
deriving DecidableEq, Repr

instance decidableEqExcept {ε α : Type} [DecidableEq ε] [DecidableEq α] :
    DecidableEq (Except ε α)
  | .ok _, .ok _ => decidable_of_iff _ (Iff.of_eq (Except.ok.injEq ..)).symm
  | .error _, .error _ => decidable_of_iff _ (Iff.of_eq (Except.error.injEq ..)).symm
  | .ok _, .error _ => isFalse nofun
  | .error _, .ok _ => isFalse nofun

/-- The wording of a fault. -/
def Fault.text : Fault → String
  | unreadableProgram path => "unable to read program from " ++ Text.quoted path
  | programTooLarge size limit =>
    "program is too large (" ++ toString size ++ " bytes), max size is " ++ toString limit ++
      " bytes"
  | addressOutOfRange address =>
    "memory access out of bounds at address " ++ Text.hexAddress address
  | stackOverflow pc => "call stack overflow at pc " ++ Text.hexAddress pc.toNat
  | stackUnderflow pc => "return with empty call stack at pc " ++ Text.hexAddress pc.toNat

end Chip8
