/-!
# Hexadecimal numbers

Numbers in the machine's texts are hexadecimal with capital digits, filled up with zeros to a width.
-/

namespace Chip8.Text

/-- The capital hexadecimal digits of a number, filled up with zeros on the left to at least a
width. -/
def hex (width n : Nat) : String :=
  String.ofList (((Nat.toDigits 16 n).map Char.toUpper).leftpad width '0')

/-- An address as texts show it: at least four digits behind `0x`. -/
def hexAddress (a : Nat) : String := "0x" ++ hex 4 a

/-- Two digits for each byte. -/
def hexBytes (bytes : List UInt8) : String :=
  String.join (bytes.map fun b => hex 2 b.toNat)

end Chip8.Text
