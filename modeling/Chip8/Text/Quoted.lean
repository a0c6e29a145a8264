import Chip8.Text.DefaultIgnorable
import Chip8.Text.GraphemeExtend
import Chip8.Text.Unprintable

/-!
# Quoted text

File names enter messages between double quotes, in a form that one can read back: what has no
picture, shows nothing, or would join its neighbour is written as its code point, and the quote and
the backslash get a backslash in front.
-/

namespace Chip8.Text

/-- Whether a character is one of the two halfwidth katakana sound marks, which are grapheme
extenders but stand in a place of their own. -/
def isHalfwidthSoundMark (c : Char) : Bool := c == '\uFF9E' || c == '\uFF9F'

/-- Whether a text that shows a character as it is can be read back by eye. -/
def isLegible (c : Char) : Bool :=
  !isUnprintable c && !isDefaultIgnorable c && (!isGraphemeExtend c || isHalfwidthSoundMark c)

/-- A character written as its code point, in lower case hexadecimal digits. -/
def codePoint (c : Char) : List Char :=
  ['\\', 'u', '\x7b'] ++ Nat.toDigits 16 c.toNat ++ ['\x7d']

/-- How a character is written between quotes. -/
def quotedChar (c : Char) : List Char :=
  match c with
  | '\x00' => ['\\', '0']
  | '\t' => ['\\', 't']
  | '\n' => ['\\', 'n']
  | '\r' => ['\\', 'r']
  | '"' => ['\\', '"']
  | '\\' => ['\\', '\\']
  | c => if isLegible c then [c] else codePoint c

/-- A text between double quotes. -/
def quoted (text : String) : String :=
  String.ofList (['"'] ++ text.toList.flatMap quotedChar ++ ['"'])

end Chip8.Text
