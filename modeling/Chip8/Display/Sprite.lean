import Chip8.Display.Basic

/-!
# Sprites

A sprite is a list of bytes, one for each row; the bits of a byte are eight cells, the most
significant one leftmost. Drawing flips the cells under the set bits. Coordinates wrap around both
edges, each for itself, so a sprite that is larger than the display overlaps itself. `spriteCells`
lists the cells under the set bits, a cell once for each bit that falls on it, and `drawSprite`
flips them one after the other.
-/

namespace Chip8

/-- The places of the set bits of a byte, counted from the most significant one. -/
def setBits (b : UInt8) : List Nat :=
  (List.range 8).filter fun j => b.toNat.testBit (7 - j)

/-- The cells under the set bits of a sprite whose upper left corner is put at a column and a row,
on a display of some width and height. -/
def spriteCells (width height x y : Nat) (sprite : List UInt8) : List (Nat × Nat) :=
  sprite.zipIdx.flatMap fun r =>
    (setBits r.1).map fun j => ((x % width + j) % width, (y % height + r.2) % height)

/-- A display after drawing on it. -/
structure Drawing (D : Type) where
  /-- The display with the cells flipped. -/
  display : D
  /-- Whether a lit cell was switched off. -/
  collision : Bool

section

variable {D : Type} [Display D]

/-- Flip one more cell of a drawing, and remember if it was lit. -/
def Drawing.flip (s : Drawing D) (cell : Nat × Nat) : Drawing D :=
  let lit := Display.pixel s.display cell.1 cell.2
  ⟨Display.toggle s.display cell.1 cell.2, s.collision || lit⟩

/-- Flip the cells of a list, one after the other. -/
def flipCells (d : D) (cells : List (Nat × Nat)) : Drawing D :=
  cells.foldl Drawing.flip ⟨d, false⟩

/-- Draw a sprite with its upper left corner at a column and a row. -/
def drawSprite (d : D) (x y : UInt8) (sprite : List UInt8) : Drawing D :=
  flipCells d (spriteCells (Display.width d) (Display.height d) x.toNat y.toNat sprite)

end

end Chip8
