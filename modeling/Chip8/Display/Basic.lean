/-!
# Displays

What the machine needs of a screen: its size, whether a cell is lit, and how to flip a cell or to
switch all cells off. How cells are kept and shown is the host's matter. `LawfulDisplay` states what
every display has to keep to, of which drawing needs `LawfulToggle` only; the results about drawing
and about the machine hold for all lawful displays alike.
-/

namespace Chip8

/-- A grid of cells that are lit or not. -/
class Display (D : Type) where
  /-- The number of columns. -/
  width : D → Nat
  /-- The number of rows. -/
  height : D → Nat
  /-- Switch every cell off. -/
  clear : D → D
  /-- Whether the cell in a column and a row is lit. -/
  pixel : D → Nat → Nat → Bool
  /-- Flip the cell in a column and a row. -/
  toggle : D → Nat → Nat → D

/-- A display on which flipping a cell inside it does what its name says. -/
class LawfulToggle (D : Type) [Display D] : Prop where
  /-- Flipping a cell keeps the number of columns. -/
  width_toggle : ∀ (d : D) (x y : Nat), x < Display.width d → y < Display.height d →
    Display.width (Display.toggle d x y) = Display.width d
  /-- Flipping a cell keeps the number of rows. -/
  height_toggle : ∀ (d : D) (x y : Nat), x < Display.width d → y < Display.height d →
    Display.height (Display.toggle d x y) = Display.height d
  /-- Flipping changes one cell and no other. -/
  pixel_toggle : ∀ (d : D) (x y x' y' : Nat), x < Display.width d → y < Display.height d →
    x' < Display.width d → y' < Display.height d →
    Display.pixel (Display.toggle d x y) x' y' =
      if x = x' ∧ y = y' then !Display.pixel d x y else Display.pixel d x' y'

/-- A display whose operations do what their names say, on the cells inside it. -/
class LawfulDisplay (D : Type) [Display D] : Prop extends LawfulToggle D where
  /-- Clearing keeps the number of columns. -/
  width_clear : ∀ d : D, Display.width (Display.clear d) = Display.width d
  /-- Clearing keeps the number of rows. -/
  height_clear : ∀ d : D, Display.height (Display.clear d) = Display.height d
  /-- A cleared display has no lit cell. -/
  pixel_clear : ∀ (d : D) (x y : Nat), x < Display.width d → y < Display.height d →
    Display.pixel (Display.clear d) x y = false

namespace Display

variable {D : Type} [Display D]

/-- The cells of one row, from the left. -/
def row (d : D) (y : Nat) : List Bool := (List.range (width d)).map fun x => pixel d x y

/-- All cells, row after row from the top. -/
def allCells (d : D) : List Bool := (List.range (height d)).flatMap fun y => row d y

/-- The number of lit cells. -/
def litCount (d : D) : Nat := (allCells d).countP id

end Display

end Chip8
