import Chip8.Opcode

/-!
# The font

Every machine holds a picture of each hexadecimal digit: five rows, of which the high four bits are
used.
-/

namespace Chip8.Font

/-- The number of rows of a digit's picture. -/
def glyphSize : Nat := 5

/-- The number of bytes of the whole font. -/
def size : Nat := 80

/-- The pictures of the sixteen digits, one after the other. -/
def bytes : List UInt8 :=
  [0xF0, 0x90, 0x90, 0x90, 0xF0, -- 0
   0x20, 0x60, 0x20, 0x20, 0x70, -- 1
   0xF0, 0x10, 0xF0, 0x80, 0xF0, -- 2
   0xF0, 0x10, 0xF0, 0x10, 0xF0, -- 3
   0x90, 0x90, 0xF0, 0x10, 0x10, -- 4
   0xF0, 0x80, 0xF0, 0x10, 0xF0, -- 5
   0xF0, 0x80, 0xF0, 0x90, 0xF0, -- 6
   0xF0, 0x10, 0x20, 0x40, 0x40, -- 7
   0xF0, 0x90, 0xF0, 0x90, 0xF0, -- 8
   0xF0, 0x90, 0xF0, 0x10, 0xF0, -- 9
   0xF0, 0x90, 0xF0, 0x90, 0x90, -- A
   0xE0, 0x90, 0xE0, 0x90, 0xE0, -- B
   0xF0, 0x80, 0x80, 0x80, 0xF0, -- C
   0xE0, 0x90, 0x90, 0x90, 0xE0, -- D
   0xF0, 0x80, 0xF0, 0x80, 0xF0, -- E
   0xF0, 0x80, 0xF0, 0x80, 0x80] -- F

/-- The rows of a digit's picture. -/
def glyph (digit : Nibble) : List UInt8 := (bytes.drop (glyphSize * digit.val)).take glyphSize

theorem length_bytes : bytes.length = 80 := rfl

theorem length_glyph (digit : Nibble) : (glyph digit).length = glyphSize := by
  revert digit
  decide

/-- The rows of a picture lie in the font behind those of the digits below. -/
theorem getElem_glyph {digit : Nibble} {i : Nat} (hi : i < (glyph digit).length)
    (hfont : 5 * digit.val + i < bytes.length) : (glyph digit)[i] = bytes[5 * digit.val + i] := by
  simp only [glyph, glyphSize, List.getElem_take, List.getElem_drop]

end Chip8.Font
