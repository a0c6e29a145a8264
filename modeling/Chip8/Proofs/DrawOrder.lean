import Chip8.Proofs.DisplayIndependence
import Mathlib.Algebra.BigOperators.Group.Finset.Basic

/-!
# Draws in any order

Several sprites, drawn one after the other, flip the cells of all of them: a list of draws is one
loop over the cells of the first sprite, then those of the second, and so on
(`drawAll_eq_flipCells`). What that loop makes of the display depends on how often each cell comes
and not on when (`Drawing.Flipped`), so the draws may be put in any order. The flag of a single draw
may change with the order, but not whether there is a collision at all.
-/

namespace Chip8

/-- A sprite and the place for its upper left corner. -/
structure Draw where
  /-- The column. -/
  x : UInt8
  /-- The row. -/
  y : UInt8
  /-- The bytes of the sprite, from the top. -/
  sprite : List UInt8
deriving DecidableEq

/-- The cells that a draw flips on a display of some width and height. -/
def Draw.cells (width height : Nat) (draw : Draw) : List (Nat × Nat) :=
  spriteCells width height draw.x.toNat draw.y.toNat draw.sprite

section

variable {D : Type} [Display D]

/-- A draw on a display. -/
def Draw.on (d : D) (draw : Draw) : Drawing D := drawSprite d draw.x draw.y draw.sprite

/-- The display that is left by draws, each on what those before it leave. -/
def drawAll (d : D) (draws : List Draw) : D :=
  draws.foldl (fun d draw => (draw.on d).display) d

/-- The collision flags that draws return, each on what those before it leave. -/
def collisions (d : D) : List Draw → List Bool
  | [] => []
  | draw :: draws => (draw.on d).collision :: collisions (draw.on d).display draws

@[simp] theorem drawAll_nil (d : D) : drawAll d [] = d := rfl

@[simp] theorem drawAll_cons (d : D) (draw : Draw) (draws : List Draw) :
    drawAll d (draw :: draws) = drawAll (draw.on d).display draws := rfl

@[simp] theorem collisions_nil (d : D) : collisions d [] = [] := rfl

@[simp] theorem collisions_cons (d : D) (draw : Draw) (draws : List Draw) :
    collisions d (draw :: draws) =
      (draw.on d).collision :: collisions (draw.on d).display draws := rfl

theorem Draw.on_eq_flipCells (d : D) (draw : Draw) :
    draw.on d = flipCells d (draw.cells (Display.width d) (Display.height d)) := rfl

/-! ## Many draws are one loop -/

/-- The loop takes no notice of an earlier collision; it is carried along. -/
theorem foldl_flip_eq (cells : List (Nat × Nat)) (d : D) (earlier : Bool) :
    cells.foldl Drawing.flip ⟨d, earlier⟩ =
      ⟨(flipCells d cells).display, earlier || (flipCells d cells).collision⟩ := by
  unfold flipCells
  induction cells generalizing d earlier with
  | nil => simp
  | cons cell cells ih =>
    rw [List.foldl_cons, List.foldl_cons, Drawing.flip, Drawing.flip, ih, ih _ (false || _)]
    simp [Bool.or_assoc]

/-- Two lists of cells, one after the other. -/
theorem flipCells_append (d : D) (cells cells' : List (Nat × Nat)) :
    flipCells d (cells ++ cells') =
      ⟨(flipCells (flipCells d cells).display cells').display,
        (flipCells d cells).collision ||
          (flipCells (flipCells d cells).display cells').collision⟩ := by
  rw [flipCells, List.foldl_append]
  exact foldl_flip_eq cells' _ _

/-- A list of draws flips the cells of the first sprite, then those of the second, and so on. -/
theorem drawAll_eq_flipCells [LawfulToggle D] {d : D} (hwidth : 0 < Display.width d)
    (hheight : 0 < Display.height d) (draws : List Draw) :
    (⟨drawAll d draws, (collisions d draws).or⟩ : Drawing D) =
      flipCells d (draws.flatMap (Draw.cells (Display.width d) (Display.height d))) := by
  induction draws generalizing d with
  | nil => rfl
  | cons draw draws ih =>
    -- the next draw finds a display of the same size, so it flips the cells that it always does
    have hflipped := flipped_drawSprite hwidth hheight draw.x draw.y draw.sprite
    have hwidth' : Display.width (draw.on d).display = Display.width d := hflipped.width_eq
    have hheight' : Display.height (draw.on d).display = Display.height d := hflipped.height_eq
    have hrest := ih (d := (draw.on d).display) (by rwa [hwidth']) (by rwa [hheight'])
    rw [hwidth', hheight'] at hrest
    rw [List.flatMap_cons, flipCells_append, ← Draw.on_eq_flipCells, ← hrest]
    simp

/-- What many draws do to each cell, and when there is a collision among them. -/
theorem flipped_drawAll [LawfulToggle D] {d : D} (hwidth : 0 < Display.width d)
    (hheight : 0 < Display.height d) (draws : List Draw) :
    Drawing.Flipped ⟨d, false⟩
      (draws.flatMap (Draw.cells (Display.width d) (Display.height d)))
      ⟨drawAll d draws, (collisions d draws).or⟩ := by
  rw [drawAll_eq_flipCells hwidth hheight]
  apply Drawing.flipped_foldl
  intro cell hcell
  obtain ⟨draw, -, hcell⟩ := List.mem_flatMap.1 hcell
  exact onDisplay_of_mem_spriteCells hwidth hheight hcell

/-! ## Only the number of flips counts -/

/-- Two loops leave the same cells lit if they flip each cell as often, up to parity. -/
theorem Drawing.Flipped.sameCells {s s₁ s₂ : Drawing D} {cells₁ cells₂ : List (Nat × Nat)}
    (h₁ : s.Flipped cells₁ s₁) (h₂ : s.Flipped cells₂ s₂) (hwidth : 0 < Display.width s.display)
    (hheight : 0 < Display.height s.display)
    (hparity : ∀ cell, Odd (cells₂.count cell) ↔ Odd (cells₁.count cell)) :
    SameCells s₁.display s₂.display where
  width_pos := by rwa [h₁.width_eq]
  height_pos := by rwa [h₁.height_eq]
  width_eq := by rw [h₁.width_eq, h₂.width_eq]
  height_eq := by rw [h₁.height_eq, h₂.height_eq]
  pixel_eq x y hx hy := by
    rw [h₁.width_eq] at hx
    rw [h₁.height_eq] at hy
    have hpixel₁ := h₁.pixel_eq (x, y) ⟨hx, hy⟩
    have hpixel₂ := h₂.pixel_eq (x, y) ⟨hx, hy⟩
    simp only [hparity] at hpixel₂
    rw [hpixel₁, hpixel₂]

/-- Whether a lit cell is hit does not depend on the order of the cells. -/
theorem Drawing.Flipped.collision_eq_of_perm {s s₁ s₂ : Drawing D}
    {cells₁ cells₂ : List (Nat × Nat)} (h₁ : s.Flipped cells₁ s₁) (h₂ : s.Flipped cells₂ s₂)
    (hperm : cells₁.Perm cells₂) : s₂.collision = s₁.collision := by
  rw [Bool.eq_iff_iff, h₁.collision_iff, h₂.collision_iff]
  simp only [hperm.mem_iff, hperm.count_eq]

/-- If each member of a list comes an even number of times, then so does whatever they stand for. -/
theorem even_count_flatMap {α β : Type} [DecidableEq α] [BEq β] {l : List α}
    (heven : ∀ a, Even (l.count a)) (f : α → List β) (b : β) : Even ((l.flatMap f).count b) := by
  rw [List.count_flatMap, Finset.sum_list_map_count]
  apply Finset.sum_induction _ Even (fun _ _ => Even.add) Even.zero
  intro a _
  rw [smul_eq_mul]
  exact (heven a).mul_right _

/-- **Draws in any order.** On a display that has cells, a list of draws leaves the same cells lit
in whatever order it is performed, and either every order meets a collision at some draw or none
does. Draws that each come an even number of times leave the cells as they were. -/
theorem draws_in_any_order [LawfulToggle D] (d : D) (hwidth : 0 < Display.width d)
    (hheight : 0 < Display.height d) (draws : List Draw) :
    (∀ draws' : List Draw, draws.Perm draws' →
      SameCells (drawAll d draws) (drawAll d draws') ∧
        (collisions d draws').or = (collisions d draws).or) ∧
    ((∀ draw, Even (draws.count draw)) → SameCells d (drawAll d draws)) := by
  have hflipped := flipped_drawAll hwidth hheight draws
  constructor
  · intro draws' hperm
    have hflipped' := flipped_drawAll hwidth hheight draws'
    have hcells := hperm.flatMap_right (Draw.cells (Display.width d) (Display.height d))
    refine ⟨hflipped.sameCells hflipped' hwidth hheight fun cell => ?_,
      hflipped.collision_eq_of_perm hflipped' hcells⟩
    rw [hcells.count_eq]
  · intro heven
    -- no draw at all flips each cell as often, up to parity
    apply (Drawing.flipped_nil ⟨d, false⟩).sameCells hflipped hwidth hheight
    intro cell
    have hcount := even_count_flatMap heven (Draw.cells (Display.width d) (Display.height d)) cell
    simpa using hcount

end

/-- Two cells drawn at once and then one by one, or first one by one: on a dark display the draws
meet two collisions in the one order and one in the other. In both orders together every draw comes
twice. -/
theorem draws_in_any_order_three :
    ∃ draws draws' : List Draw, draws.Perm draws' ∧
      collisions (Bitmap.blank 3 2) draws = [false, true, true] ∧
      collisions (Bitmap.blank 3 2) draws' = [false, false, true] ∧
      SameCells (drawAll (Bitmap.blank 3 2) draws) (drawAll (Bitmap.blank 3 2) draws') ∧
      SameCells (Bitmap.blank 3 2) (drawAll (Bitmap.blank 3 2) (draws ++ draws')) := by
  let both : Draw := ⟨2, 1, [0xC0]⟩
  let left : Draw := ⟨2, 1, [0x80]⟩
  let right : Draw := ⟨0, 1, [0x80]⟩
  have hperm : [both, left, right].Perm [left, right, both] :=
    (List.perm_append_comm : ([both] ++ [left, right]).Perm _)
  have horder := draws_in_any_order (Bitmap.blank 3 2) (by decide) (by decide)
  refine ⟨[both, left, right], [left, right, both], hperm, by decide +kernel, by decide +kernel,
    ((horder [both, left, right]).1 _ hperm).1, (horder _).2 fun draw => ?_⟩
  rw [List.count_append, hperm.count_eq]
  exact ⟨_, rfl⟩

end Chip8
