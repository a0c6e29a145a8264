import Chip8.Display.Basic

/-!
# Bitmaps

A display that keeps its cells row after row in one vector. Coordinates wrap around, so that every
pair of them names a cell. Beside single cells, a bitmap can be seen as a list of rows, as text, and
as coloured pixels in a buffer of the host; all of them show the same cells in the same order. The
frame buffer of the machine is the bitmap of 64 columns and 32 rows.
-/

namespace Chip8

/-- Cells in rows. -/
structure Bitmap (width height : Nat) where
  /-- The cells, from the left within a row and row after row from the top. -/
  cells : Vector Bool (width * height)
deriving DecidableEq

/-- The screen of the machine. -/
abbrev FrameBuffer := Bitmap 64 32

namespace Bitmap

variable {w h : Nat}

/-- No cell is lit. -/
def blank (w h : Nat) : Bitmap w h := ⟨Vector.replicate (w * h) false⟩

/-- The place in the vector of the cell in a column and a row. -/
def index (w h x y : Nat) : Nat := (y % h) * w + x % w

/-- Whether the cell in a column and a row is lit. -/
def pixel (b : Bitmap w h) (x y : Nat) : Bool := b.cells[index w h x y]?.getD false

/-- Flip the cell in a column and a row. -/
def toggle (b : Bitmap w h) (x y : Nat) : Bitmap w h :=
  let lit := b.pixel x y
  ⟨b.cells.setIfInBounds (index w h x y) (!lit)⟩

instance : Display (Bitmap w h) where
  width _ := w
  height _ := h
  clear _ := blank w h
  pixel := pixel
  toggle := toggle

/-! ## Other views -/

/-- The rows from the top, each a list of cells from the left. -/
def rows (b : Bitmap w h) : List (List Bool) :=
  (List.range h).map fun y => (b.cells.toList.drop (y * w)).take w

/-- The character for a cell. -/
def mark (lit : Bool) : Char := if lit then '#' else '.'

/-- The cells as text, a line for each row. -/
def text (b : Bitmap w h) : String :=
  String.ofList (b.rows.flatMap fun row => row.map mark ++ ['\n'])

/-- Colour the pixels of a buffer, one for each cell; what the buffer has beyond stays as it is. -/
def paint (b : Bitmap w h) (pixels : Array UInt32) (on off : UInt32) : Array UInt32 :=
  pixels.mapIdx fun i pixel =>
    match b.cells[i]? with
    | some lit => if lit then on else off
    | none => pixel

/-! ## The laws of a display -/

theorem index_lt {x y : Nat} (hw : 0 < w) (hh : 0 < h) : index w h x y < w * h := by
  have hx : x % w < w := Nat.mod_lt x hw
  have hy : y % h < h := Nat.mod_lt y hh
  calc index w h x y < (y % h) * w + w := Nat.add_lt_add_left hx _
    _ = (y % h + 1) * w := (Nat.succ_mul _ _).symm
    _ ≤ h * w := Nat.mul_le_mul_right w hy
    _ = w * h := Nat.mul_comm h w

/-- Two pairs of coordinates name the same place only if they name the same cell. -/
theorem index_inj {x y x' y' : Nat} (hw : 0 < w) :
    index w h x y = index w h x' y' ↔ x % w = x' % w ∧ y % h = y' % h := by
  have hx : x % w < w := Nat.mod_lt x hw
  have hx' : x' % w < w := Nat.mod_lt x' hw
  constructor
  · intro e
    have hmod : ∀ q r : Nat, r < w → (q * w + r) % w = r := fun q r hr => by
      rw [Nat.mul_comm, Nat.mul_add_mod, Nat.mod_eq_of_lt hr]
    have hdiv : ∀ q r : Nat, r < w → (q * w + r) / w = q := fun q r hr => by
      rw [Nat.mul_comm, Nat.mul_add_div hw, Nat.div_eq_of_lt hr, Nat.add_zero]
    exact ⟨by rw [← hmod (y % h) _ hx, ← hmod (y' % h) _ hx']; exact congrArg (· % w) e,
      by rw [← hdiv (y % h) _ hx, ← hdiv (y' % h) _ hx']; exact congrArg (· / w) e⟩
  · rintro ⟨ex, ey⟩
    rw [index, index, ex, ey]

theorem pixel_blank (x y : Nat) : (blank w h).pixel x y = false := by
  simp only [pixel, blank, Vector.getElem?_replicate]
  split <;> rfl

/-- Flipping a cell of a bitmap changes that cell and no other, wherever the coordinates lie. -/
theorem pixel_toggle (b : Bitmap w h) (hw : 0 < w) (hh : 0 < h) (x y x' y' : Nat) :
    (b.toggle x y).pixel x' y' =
      if x % w = x' % w ∧ y % h = y' % h then !b.pixel x y else b.pixel x' y' := by
  have hi : index w h x' y' < w * h := index_lt hw hh
  simp only [toggle, pixel, ← index_inj hw]
  rw [Vector.getElem?_eq_getElem hi, Vector.getElem_setIfInBounds hi,
    Vector.getElem?_eq_getElem hi]
  split <;> rfl

/-- Every place in the vector is that of a cell. -/
theorem index_mod_div {i : Nat} (hi : i < w * h) : index w h (i % w) (i / w) = i := by
  rw [index, Nat.mod_mod, Nat.mod_eq_of_lt (Nat.div_lt_of_lt_mul hi), Nat.div_add_mod']

/-- Bitmaps that show the same cells are the same. -/
theorem ext_pixel {b b' : Bitmap w h}
    (heq : ∀ x y, x < w → y < h → b.pixel x y = b'.pixel x y) : b = b' := by
  obtain ⟨cells⟩ := b
  obtain ⟨cells'⟩ := b'
  rw [mk.injEq]
  refine Vector.ext fun i hi => ?_
  have hw : 0 < w := Nat.pos_of_mul_pos_right (Nat.zero_lt_of_lt hi)
  have hpixel := heq (i % w) (i / w) (Nat.mod_lt i hw) (Nat.div_lt_of_lt_mul hi)
  simpa only [pixel, index_mod_div hi, Vector.getElem?_eq_getElem hi, Option.getD_some] using hpixel

instance : LawfulDisplay (Bitmap w h) where
  width_clear _ := rfl
  height_clear _ := rfl
  width_toggle _ _ _ _ _ := rfl
  height_toggle _ _ _ _ _ := rfl
  pixel_clear _ x y _ _ := pixel_blank x y
  pixel_toggle b x y x' y' hx hy hx' hy' := by
    have hw : 0 < w := Nat.zero_lt_of_lt hx
    have hh : 0 < h := Nat.zero_lt_of_lt hy
    have e := pixel_toggle b hw hh x y x' y'
    have hx : x < w := hx
    have hy : y < h := hy
    have hx' : x' < w := hx'
    have hy' : y' < h := hy'
    rw [Nat.mod_eq_of_lt hx, Nat.mod_eq_of_lt hy, Nat.mod_eq_of_lt hx', Nat.mod_eq_of_lt hy'] at e
    exact e

end Bitmap

end Chip8
