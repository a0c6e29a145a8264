import Chip8.Display.Bitmap
import Chip8.Display.Sprite
import Mathlib.Algebra.BigOperators.Fin
import Mathlib.Algebra.Ring.Parity

/-!
# Drawing, cell by cell

Drawing reads and flips cells one after the other, and a sprite that wraps around may come back to a
cell that it has flipped before. Still only two numbers matter for a cell: whether it was lit at the
start, and how many set bits fall on it, its `coverage`. The loop is followed by an invariant,
`Drawing.Flipped`, over the cells that are still to be flipped; it holds for any list of cells, not
only for those of one sprite.
-/

namespace Chip8

/-! ## Coverage -/

/-- The number of set bits of a sprite that fall on a cell, if its upper left corner is put at a
column and a row of a display of some width and height. -/
def coverage (width height x y : Nat) (sprite : List UInt8) (cell : Nat × Nat) : Nat :=
  (Finset.univ.filter fun p : Fin sprite.length × Fin 8 =>
    sprite[p.1].toNat.testBit (7 - p.2) ∧
      ((x % width + p.2) % width, (y % height + p.1) % height) = cell).card

/-- Counting in a list is summing up over it. -/
private theorem countP_eq_sum {α : Type} (p : α → Bool) (l : List α) :
    l.countP p = (l.map fun a => if p a then 1 else 0).sum := by
  induction l with
  | nil => rfl
  | cons a l ih => rw [List.countP_cons, List.map_cons, List.sum_cons, ih, Nat.add_comm]

/-- The set bits of a byte that fall on a cell, counted along the row. -/
theorem count_map_setBits (b : UInt8) (place : Nat → Nat × Nat) (cell : Nat × Nat) :
    ((setBits b).map place).count cell =
      ∑ j : Fin 8, if b.toNat.testBit (7 - j) ∧ place j = cell then 1 else 0 := by
  rw [setBits, List.count_eq_countP, List.countP_map, List.countP_filter, countP_eq_sum,
    ← List.map_coe_finRange_eq_range, List.map_map, Fin.sum_univ_def]
  refine congrArg List.sum (List.map_congr_left fun j _ => ?_)
  simp only [Function.comp_apply, Bool.and_eq_true, beq_iff_eq, and_comm]

/-- The rows of a sprite with their numbers. -/
private theorem zipIdx_eq_map_finRange (sprite : List UInt8) :
    sprite.zipIdx = (List.finRange sprite.length).map fun i => (sprite[i], i.val) := by
  apply List.ext_getElem
  · rw [List.length_zipIdx, List.length_map, List.length_finRange]
  · intro i hi hi'
    rw [List.getElem_zipIdx, List.getElem_map, List.getElem_finRange]
    simp

/-- A sprite flips a cell once for each set bit that falls on it. -/
theorem count_spriteCells (width height x y : Nat) (sprite : List UInt8) (cell : Nat × Nat) :
    (spriteCells width height x y sprite).count cell = coverage width height x y sprite cell := by
  rw [spriteCells, List.count_flatMap, zipIdx_eq_map_finRange, List.map_map, coverage,
    Finset.card_filter, Fintype.sum_prod_type, Fin.sum_univ_def]
  refine congrArg List.sum (List.map_congr_left fun i _ => ?_)
  exact count_map_setBits _ _ _

/-! ## Flipping cells -/

/-- Whether a cell lies on a display. -/
def OnDisplay {D : Type} [Display D] (d : D) (cell : Nat × Nat) : Prop :=
  cell.1 < Display.width d ∧ cell.2 < Display.height d

/-- Every cell under a sprite lies on the display. -/
theorem onDisplay_of_mem_spriteCells {D : Type} [Display D] {d : D} {x y : Nat}
    {sprite : List UInt8} {cell : Nat × Nat} (hwidth : 0 < Display.width d)
    (hheight : 0 < Display.height d)
    (h : cell ∈ spriteCells (Display.width d) (Display.height d) x y sprite) :
    OnDisplay d cell := by
  obtain ⟨row, -, hrow⟩ := List.mem_flatMap.1 h
  obtain ⟨j, -, rfl⟩ := List.mem_map.1 hrow
  exact ⟨Nat.mod_lt _ hwidth, Nat.mod_lt _ hheight⟩

namespace Drawing

/-- What flipping the cells of a list, one after the other, makes of a drawing. A cell changes if it
is flipped an odd number of times. It is found lit at some flip if it was lit at the start, or if it
is flipped at least twice: then the first flip finds it lit or the second does. -/
structure Flipped {D : Type} [Display D] (s : Drawing D) (cells : List (Nat × Nat))
    (s' : Drawing D) : Prop where
  width_eq : Display.width s'.display = Display.width s.display
  height_eq : Display.height s'.display = Display.height s.display
  pixel_eq : ∀ cell, OnDisplay s.display cell →
    Display.pixel s'.display cell.1 cell.2 =
      (Display.pixel s.display cell.1 cell.2 ^^ decide (Odd (cells.count cell)))
  collision_iff : s'.collision = true ↔
    s.collision = true ∨
      ∃ cell ∈ cells, Display.pixel s.display cell.1 cell.2 = true ∨ 2 ≤ cells.count cell

variable {D : Type} [Display D] [LawfulToggle D] {s s' : Drawing D} {cell : Nat × Nat}
  {cells : List (Nat × Nat)}

omit [LawfulToggle D] in
/-- Nothing is flipped by no cells. -/
theorem flipped_nil (s : Drawing D) : s.Flipped [] s where
  width_eq := rfl
  height_eq := rfl
  pixel_eq cell _ := by simp
  collision_iff := by simp

/-- Flipping a cell keeps the number of columns. -/
theorem width_flip (hcell : OnDisplay s.display cell) :
    Display.width (s.flip cell).display = Display.width s.display :=
  LawfulToggle.width_toggle _ _ _ hcell.1 hcell.2

/-- Flipping a cell keeps the number of rows. -/
theorem height_flip (hcell : OnDisplay s.display cell) :
    Display.height (s.flip cell).display = Display.height s.display :=
  LawfulToggle.height_toggle _ _ _ hcell.1 hcell.2

/-- A cell lies on the display after a flip if it did before. -/
theorem onDisplay_flip (hcell : OnDisplay s.display cell) {c : Nat × Nat}
    (hc : OnDisplay s.display c) : OnDisplay (s.flip cell).display c := by
  rw [OnDisplay, width_flip hcell, height_flip hcell]
  exact hc

/-- Flipping a cell changes that cell and no other. -/
theorem pixel_flip (hcell : OnDisplay s.display cell) {cell' : Nat × Nat}
    (hcell' : OnDisplay s.display cell') :
    Display.pixel (s.flip cell).display cell'.1 cell'.2 =
      (Display.pixel s.display cell'.1 cell'.2 ^^ decide (cell = cell')) := by
  have htoggle := LawfulToggle.pixel_toggle s.display cell.1 cell.2 cell'.1 cell'.2
    hcell.1 hcell.2 hcell'.1 hcell'.2
  refine htoggle.trans ?_
  by_cases heq : cell = cell'
  · rw [if_pos (Prod.ext_iff.1 heq), decide_eq_true heq, Bool.xor_true, heq]
  · rw [if_neg fun h => heq (Prod.ext_iff.2 h), decide_eq_false heq, Bool.xor_false]

/-- A cell that is found lit after one flip was lit before, or it is the cell that was flipped, and
then it was not lit before. -/
private theorem collision_cons_iff (hcells : ∀ c ∈ cell :: cells, OnDisplay s.display c) :
    ((s.flip cell).collision = true ∨
      ∃ c ∈ cells, Display.pixel (s.flip cell).display c.1 c.2 = true ∨ 2 ≤ cells.count c) ↔
    (s.collision = true ∨ ∃ c ∈ cell :: cells,
      Display.pixel s.display c.1 c.2 = true ∨ 2 ≤ (cell :: cells).count c) := by
  have hcell := hcells cell List.mem_cons_self
  have hcollision : (s.flip cell).collision = true ↔
      s.collision = true ∨ Display.pixel s.display cell.1 cell.2 = true := Bool.or_eq_true_iff
  have hcount : (cell :: cells).count cell = cells.count cell + 1 := List.count_cons_self
  rw [hcollision]
  constructor
  · rintro ((hearlier | hlit) | ⟨c, hc, hfound⟩)
    · exact .inl hearlier
    · exact .inr ⟨cell, List.mem_cons_self, .inl hlit⟩
    · refine .inr ⟨c, List.mem_cons_of_mem cell hc, ?_⟩
      rw [pixel_flip hcell (hcells c (List.mem_cons_of_mem cell hc))] at hfound
      by_cases heq : cell = c
      · -- the cell comes again, so it is flipped twice, whatever it was before
        subst heq
        have hpos := List.count_pos_iff.2 hc
        exact .inr (by omega)
      · rw [List.count_cons_of_ne heq]
        rwa [decide_eq_false heq, Bool.xor_false] at hfound
  · rintro (hearlier | ⟨c, hc, hfound⟩)
    · exact .inl (.inl hearlier)
    by_cases heq : cell = c
    · subst heq
      cases hlit : Display.pixel s.display cell.1 cell.2 with
      | true => exact .inl (.inr rfl)
      | false =>
        -- the first flip switched the cell on, and the second finds it so
        have htwice : 2 ≤ (cell :: cells).count cell := hfound.resolve_left (by rw [hlit]; nofun)
        refine .inr ⟨cell, List.count_pos_iff.1 (by omega), .inl ?_⟩
        rw [pixel_flip hcell hcell, hlit, decide_eq_true rfl]
        rfl
    · have hmem := (List.mem_cons.1 hc).resolve_left (Ne.symm heq)
      rw [List.count_cons_of_ne heq] at hfound
      refine .inr ⟨c, hmem, ?_⟩
      rwa [pixel_flip hcell (hcells c hc), decide_eq_false heq, Bool.xor_false]

/-- One more flip at the start. -/
theorem Flipped.cons (hcells : ∀ c ∈ cell :: cells, OnDisplay s.display c)
    (h : (s.flip cell).Flipped cells s') : s.Flipped (cell :: cells) s' := by
  have hcell := hcells cell List.mem_cons_self
  refine ⟨h.width_eq.trans (width_flip hcell), h.height_eq.trans (height_flip hcell), ?_,
    h.collision_iff.trans (collision_cons_iff hcells)⟩
  intro c hc
  rw [h.pixel_eq c (onDisplay_flip hcell hc), pixel_flip hcell hc, Bool.xor_assoc]
  congr 1
  by_cases heq : cell = c
  · subst heq
    rw [List.count_cons_self]
    -- one flip more changes the parity
    by_cases hodd : Odd (cells.count cell) <;> simp [hodd, Nat.odd_add_one]
  · rw [List.count_cons_of_ne heq, decide_eq_false heq, Bool.false_xor]

/-- The loop over a list of cells flips as `Flipped` says. -/
theorem flipped_foldl (cells : List (Nat × Nat)) (s : Drawing D)
    (hcells : ∀ c ∈ cells, OnDisplay s.display c) : s.Flipped cells (cells.foldl flip s) := by
  induction cells generalizing s with
  | nil => exact flipped_nil s
  | cons cell cells ih =>
    apply Flipped.cons hcells
    apply ih (s.flip cell)
    intro c hc
    exact onDisplay_flip (hcells cell List.mem_cons_self) (hcells c (List.mem_cons_of_mem cell hc))

end Drawing

/-! ## Drawing sprites -/

variable {D : Type} [Display D] [LawfulToggle D]

/-- Drawing a sprite on a display that has cells flips the cells under its set bits. -/
theorem flipped_drawSprite {d : D} (hwidth : 0 < Display.width d) (hheight : 0 < Display.height d)
    (x y : UInt8) (sprite : List UInt8) :
    Drawing.Flipped ⟨d, false⟩
      (spriteCells (Display.width d) (Display.height d) x.toNat y.toNat sprite)
      (drawSprite d x y sprite) := by
  apply Drawing.flipped_foldl
  intro cell hcell
  exact onDisplay_of_mem_spriteCells hwidth hheight hcell

/-- **Drawing, cell by cell.** On a display that has cells, drawing a sprite changes the cells that
an odd number of set bits fall on. There is a collision if and only if a set bit falls on a cell
that was lit, or two set bits fall on one cell. -/
theorem drawSprite_by_coverage (d : D) (hwidth : 0 < Display.width d)
    (hheight : 0 < Display.height d) (x y : UInt8) (sprite : List UInt8) :
    let drawn := drawSprite d x y sprite
    let k := coverage (Display.width d) (Display.height d) x.toNat y.toNat sprite
    Display.width drawn.display = Display.width d ∧
    Display.height drawn.display = Display.height d ∧
    (∀ a b, a < Display.width d → b < Display.height d →
      Display.pixel drawn.display a b = (Display.pixel d a b ^^ decide (Odd (k (a, b))))) ∧
    (drawn.collision = true ↔ ∃ a b, a < Display.width d ∧ b < Display.height d ∧
      ((1 ≤ k (a, b) ∧ Display.pixel d a b = true) ∨ 2 ≤ k (a, b))) := by
  intro drawn k
  let cells := spriteCells (Display.width d) (Display.height d) x.toNat y.toNat sprite
  have hflipped : Drawing.Flipped ⟨d, false⟩ cells drawn := flipped_drawSprite hwidth hheight x y _
  have hcount : ∀ cell, cells.count cell = k cell := count_spriteCells _ _ _ _ _
  refine ⟨hflipped.width_eq, hflipped.height_eq, fun a b ha hb => ?_,
    hflipped.collision_iff.trans ⟨?_, ?_⟩⟩
  · rw [← hcount]
    exact hflipped.pixel_eq (a, b) ⟨ha, hb⟩
  · rintro (hstart | ⟨⟨a, b⟩, hmem, hfound⟩)
    · cases hstart
    · obtain ⟨ha, hb⟩ := onDisplay_of_mem_spriteCells hwidth hheight hmem
      have hpos := List.count_pos_iff.2 hmem
      rw [hcount] at hfound hpos
      exact ⟨a, b, ha, hb, hfound.imp_left fun hlit => ⟨hpos, hlit⟩⟩
  · rintro ⟨a, b, -, -, hfound⟩
    rw [← hcount] at hfound
    refine .inr ⟨(a, b), List.count_pos_iff.1 ?_, hfound.imp_left And.right⟩
    rcases hfound with ⟨hpos, -⟩ | htwice <;> omega

/-- A sprite that covers one cell of a small display three times. -/
theorem drawSprite_by_coverage_overlap :
    coverage 3 2 2 1 [0xF0, 0x00, 0x80] (2, 1) = 3 ∧
    Display.pixel (drawSprite (Bitmap.blank 3 2) 2 1 [0xF0, 0x00, 0x80]).display 2 1 = true ∧
    (drawSprite (Bitmap.blank 3 2) 2 1 [0xF0, 0x00, 0x80]).collision = true := by
  have hcoverage : coverage 3 2 2 1 [0xF0, 0x00, 0x80] (2, 1) = 3 := by decide +kernel
  obtain ⟨-, -, hpixel, hcollision⟩ :=
    drawSprite_by_coverage (Bitmap.blank 3 2) (by decide) (by decide) 2 1 [0xF0, 0x00, 0x80]
  refine ⟨hcoverage, ?_, hcollision.2 ⟨2, 1, by decide, by decide, .inr ?_⟩⟩
  · refine (hpixel 2 1 (by decide) (by decide)).trans ?_
    show (false ^^ decide (Odd (coverage 3 2 2 1 [0xF0, 0x00, 0x80] (2, 1)))) = true
    rw [hcoverage]
    decide
  · show 2 ≤ coverage 3 2 2 1 [0xF0, 0x00, 0x80] (2, 1)
    omega

end Chip8
