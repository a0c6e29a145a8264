import Chip8.Display.Bitmap

/-!
# The views of a bitmap

The cells of a bitmap can be read one by one, as a vector, as text, and as pixels in a buffer of the
host. Each of these walks over the cells in a way of its own: by an index made of two remainders, by
cutting the vector into lines, and side by side with a buffer of another length. Still all of them
use one layout, row after row: the cell in a column and a row stands at the same place of the vector
(`Bitmap.getElem?_cells_index`), of the text but for the line breaks (`Bitmap.getElem?_text`), and
of the buffer (`Bitmap.getElem?_paint_of_lt`). So the text shows all of the bitmap
(`Bitmap.text_injective`), and so does a buffer that is long enough (`Bitmap.eq_of_paint_eq`).
-/

namespace Chip8

/-- The entries of lists of one length, put one behind the other. -/
private theorem getElem?_flatMap_of_length {α β : Type} {n : Nat} {f : α → List β} (l : List α)
    (hlength : ∀ a ∈ l, (f a).length = n) (i : Nat) {j : Nat} (hj : j < n) :
    (l.flatMap f)[n * i + j]? = l[i]?.bind fun a => (f a)[j]? := by
  induction l generalizing i with
  | nil => rfl
  | cons a l ih =>
    have hfirst : (f a).length = n := hlength a List.mem_cons_self
    rw [List.flatMap_cons]
    cases i with
    | zero =>
      rw [Nat.mul_zero, Nat.zero_add, List.getElem?_append_left (by omega),
        List.getElem?_cons_zero, Option.bind_some]
    | succ i =>
      have hplace : n * (i + 1) + j - (f a).length = n * i + j := by
        rw [Nat.mul_succ, hfirst]
        omega
      rw [List.getElem?_append_right (by rw [Nat.mul_succ, hfirst]; omega), hplace,
        List.getElem?_cons_succ, ih fun b hb => hlength b (List.mem_cons_of_mem a hb)]

namespace Bitmap

variable {w h : Nat}

/-! ## Cells -/

/-- A cell stands at the place of its column and row. -/
theorem getElem?_cells_index (b : Bitmap w h) (hw : 0 < w) (hh : 0 < h) (x y : Nat) :
    b.cells[index w h x y]? = some (b.pixel x y) := by
  rw [pixel, Vector.getElem?_eq_getElem (index_lt hw hh), Option.getD_some]

/-- Flipping a cell changes the place of its column and row and no other. -/
theorem getElem?_cells_toggle (b : Bitmap w h) (hw : 0 < w) (hh : 0 < h) (x y i : Nat) :
    (b.toggle x y).cells[i]? =
      if i = index w h x y then some (!b.pixel x y) else b.cells[i]? := by
  rw [toggle, Vector.getElem?_setIfInBounds]
  by_cases hi : i = index w h x y
  · rw [if_pos hi, if_pos hi.symm, if_pos (index_lt hw hh)]
  · rw [if_neg hi, if_neg (Ne.symm hi)]

/-! ## Text -/

theorem length_rows (b : Bitmap w h) : b.rows.length = h := by
  rw [rows, List.length_map, List.length_range]

/-- The cells of a row lie behind each other. -/
theorem length_of_mem_rows {b : Bitmap w h} {row : List Bool} (hrow : row ∈ b.rows) :
    row.length = w := by
  obtain ⟨y, hy, rfl⟩ := List.mem_map.1 hrow
  have hlt : y < h := List.mem_range.1 hy
  have hend : y * w + w ≤ w * h := by
    calc y * w + w = (y + 1) * w := (Nat.succ_mul y w).symm
      _ ≤ h * w := Nat.mul_le_mul_right w hlt
      _ = w * h := Nat.mul_comm h w
  rw [List.length_take, List.length_drop, Vector.length_toList]
  omega

/-- The cell in a column stands there in its row. -/
theorem getElem?_rows (b : Bitmap w h) {x y : Nat} (hx : x < w) (hy : y < h) :
    b.rows[y]?.bind (·[x]?) = some (b.pixel x y) := by
  have hplace : index w h x y = y * w + x := by
    rw [index, Nat.mod_eq_of_lt hx, Nat.mod_eq_of_lt hy]
  rw [rows, List.getElem?_map, List.getElem?_range hy, Option.map_some, Option.bind_some,
    List.getElem?_take_of_lt hx, List.getElem?_drop, Vector.getElem?_toList, ← hplace]
  exact b.getElem?_cells_index (Nat.zero_lt_of_lt hx) (Nat.zero_lt_of_lt hy) x y

/-- A cell can be told from its character. -/
theorem mark_injective {lit lit' : Bool} (heq : mark lit = mark lit') : lit = lit' := by
  revert lit lit'
  decide

/-- The text has a line for each row, each with a line break behind it. -/
theorem toList_text (b : Bitmap w h) :
    b.text.toList = (b.rows.map (·.map mark)).flatMap (· ++ ['\n']) := by
  rw [text, String.toList_ofList, List.flatMap_map]

/-- The lines are as long as the rows, and no character of theirs breaks a line. -/
theorem line_of_mem {b : Bitmap w h} {line : List Char} (hline : line ∈ b.rows.map (·.map mark)) :
    line.length = w ∧ '\n' ∉ line := by
  obtain ⟨row, hrow, rfl⟩ := List.mem_map.1 hline
  refine ⟨by rw [List.length_map, length_of_mem_rows hrow], fun hbreak => ?_⟩
  obtain ⟨lit, -, hlit⟩ := List.mem_map.1 hbreak
  revert hlit
  cases lit <;> decide

/-- The character of a cell stands at its place in the text, in which a line has one character more
than a row has cells. -/
theorem getElem?_text (b : Bitmap w h) {x y : Nat} (hx : x < w) (hy : y < h) :
    b.text.toList[(w + 1) * y + x]? = some (mark (b.pixel x y)) := by
  have hlength : ∀ row ∈ b.rows, (row.map mark ++ ['\n']).length = w + 1 := by
    intro row hrow
    rw [List.length_append, List.length_map, length_of_mem_rows hrow]
    rfl
  obtain ⟨row, hrow, hcell⟩ := Option.bind_eq_some_iff.1 (b.getElem?_rows hx hy)
  rw [text, String.toList_ofList, getElem?_flatMap_of_length b.rows hlength y (by omega), hrow,
    Option.bind_some, List.getElem?_append_left, List.getElem?_map, hcell, Option.map_some]
  rw [List.length_map, length_of_mem_rows (List.mem_of_getElem? hrow)]
  exact hx

/-- The text determines the bitmap. -/
theorem text_injective {b b' : Bitmap w h} (heq : b.text = b'.text) : b = b' := by
  apply ext_pixel
  intro x y hx hy
  apply mark_injective
  rw [← Option.some.injEq, ← b.getElem?_text hx hy, heq, b'.getElem?_text hx hy]

/-! ## Pixels -/

theorem size_paint (b : Bitmap w h) (pixels : Array UInt32) (on off : UInt32) :
    (b.paint pixels on off).size = pixels.size := by
  rw [paint, Array.size_mapIdx]

/-- A pixel that stands for a cell takes the colour of the cell. -/
theorem getElem?_paint_of_lt (b : Bitmap w h) {pixels : Array UInt32} (on off : UInt32) {i : Nat}
    (hsize : i < pixels.size) (hi : i < w * h) :
    (b.paint pixels on off)[i]? = some (if b.cells[i] then on else off) := by
  rw [paint, Array.getElem?_mapIdx, Array.getElem?_eq_getElem hsize, Option.map_some,
    Vector.getElem?_eq_getElem hi]

/-- A pixel that stands for no cell keeps its colour. -/
theorem getElem?_paint_of_le (b : Bitmap w h) (pixels : Array UInt32) (on off : UInt32) {i : Nat}
    (hi : w * h ≤ i) : (b.paint pixels on off)[i]? = pixels[i]? := by
  rw [paint, Array.getElem?_mapIdx, Vector.getElem?_eq_none hi, Option.map_id_fun', id_eq]

/-- A cell can be told from its colour, if the two colours differ. -/
theorem colour_injective {on off : UInt32} (hne : on ≠ off) {lit lit' : Bool}
    (heq : (if lit then on else off) = if lit' then on else off) : lit = lit' := by
  cases lit <;> cases lit'
  · rfl
  · exact absurd heq.symm hne
  · exact absurd heq hne
  · rfl

/-- The colours of a buffer that has a pixel for each cell determine the bitmap. -/
theorem eq_of_paint_eq {b b' : Bitmap w h} {pixels pixels' : Array UInt32} {on off : UInt32}
    (hne : on ≠ off) (hsize : w * h ≤ pixels.size)
    (heq : b.paint pixels on off = b'.paint pixels' on off) : b = b' := by
  obtain ⟨cells⟩ := b
  obtain ⟨cells'⟩ := b'
  have hsize' : pixels'.size = pixels.size := by
    rw [← size_paint ⟨cells'⟩ pixels' on off, ← heq, size_paint]
  rw [mk.injEq]
  refine Vector.ext fun i hi => ?_
  apply colour_injective hne
  have hcolour : (paint ⟨cells⟩ pixels on off)[i]? = (paint ⟨cells'⟩ pixels' on off)[i]? := by
    rw [heq]
  rw [getElem?_paint_of_lt _ on off (by omega) hi, getElem?_paint_of_lt _ on off (by omega) hi]
    at hcolour
  exact Option.some.inj hcolour

/-- **All views of the screen agree.** A cell of the screen, in any column and row, is the one at
64 times the row plus the column of its 2048 cells, each reduced to the size of the screen, and
flipping it changes that one and no other. The text has 32 lines of 64 characters, with a line break
behind each, and shows at 65 times the row plus the column whether the cell is lit. Painting a
buffer gives each pixel that stands for a cell the colour for that cell and leaves all others. So
the text determines the screen, and so does a painted buffer if the colours differ and it has a
pixel for each cell. -/
theorem views_agree (b : FrameBuffer) :
    (∀ x y, b.cells[64 * (y % 32) + x % 64]? = some (b.pixel x y)) ∧
    (∀ x y i, (b.toggle x y).cells[i]? =
      if i = 64 * (y % 32) + x % 64 then some (!b.pixel x y) else b.cells[i]?) ∧
    (∃ lines : List (List Char), lines.length = 32 ∧
      (∀ line ∈ lines, line.length = 64 ∧ '\n' ∉ line) ∧
      b.text.toList = lines.flatMap (· ++ ['\n'])) ∧
    (∀ x y, x < 64 → y < 32 →
      b.text.toList[65 * y + x]? = some (if b.pixel x y then '#' else '.')) ∧
    (∀ pixels on off, (b.paint pixels on off).size = pixels.size ∧
      (∀ i, i < pixels.size → ∀ hi : i < 2048,
        (b.paint pixels on off)[i]? = some (if b.cells[i] then on else off)) ∧
      ∀ i, 2048 ≤ i → (b.paint pixels on off)[i]? = pixels[i]?) ∧
    (∀ b' : FrameBuffer, b.text = b'.text → b = b') ∧
    ∀ (b' : FrameBuffer) (pixels pixels' : Array UInt32) (on off : UInt32), on ≠ off →
      2048 ≤ pixels.size → b.paint pixels on off = b'.paint pixels' on off → b = b' := by
  have hw : 0 < 64 := by decide
  have hh : 0 < 32 := by decide
  have hindex (x y : Nat) : index 64 32 x y = 64 * (y % 32) + x % 64 := by
    rw [index, Nat.mul_comm]
  refine ⟨fun x y => ?_, fun x y i => ?_, ⟨b.rows.map (·.map mark), ?_, fun line => line_of_mem,
    b.toList_text⟩, fun x y => b.getElem?_text, fun pixels on off => ⟨b.size_paint pixels on off,
    fun i => b.getElem?_paint_of_lt on off, fun i => b.getElem?_paint_of_le pixels on off⟩,
    fun b' => text_injective, fun b' pixels pixels' on off hne hsize => eq_of_paint_eq hne hsize⟩
  · rw [← hindex]
    exact b.getElem?_cells_index hw hh x y
  · rw [← hindex]
    exact b.getElem?_cells_toggle hw hh x y i
  · rw [List.length_map, length_rows]

/-- A screen with one lit cell, flipped from beyond its edges, on a buffer that is too short and on
one that is longer than needed. -/
theorem views_agree_one_cell :
    ∃ b : FrameBuffer, b = (blank 64 32).toggle 65 33 ∧ b.cells[65]? = some true ∧
      b.text.toList[65 + 1]? = some '#' ∧
      (b.paint #[7, 7] 5 6)[1]? = some 6 ∧
      (b.paint (Array.replicate 2049 7) 5 6)[2048]? = some 7 ∧
      (∀ b' : FrameBuffer, b'.paint (Array.replicate 2048 7) 5 6 =
        b.paint (Array.replicate 2048 8) 5 6 → b' = b) ∧
      (blank 64 32).toggle 1 1 = b := by
  obtain ⟨-, htoggle, -⟩ := views_agree (blank 64 32)
  obtain ⟨hcell, -, -, htext, hpaint, hshown, -⟩ := views_agree ((blank 64 32).toggle 65 33)
  have hpixel : ((blank 64 32).toggle 65 33).pixel 1 1 = true := by
    rw [← Option.some.injEq, ← hcell, htoggle]
    rfl
  have hdark : ((blank 64 32).toggle 65 33).cells[1] = false :=
    Option.some.inj ((Vector.getElem?_eq_getElem _).symm.trans ((htoggle 65 33 1).trans rfl))
  refine ⟨_, rfl, ?_, ?_, ?_, ?_, fun b' => ?_, ?_⟩
  · rw [← hpixel]
    exact hcell 1 1
  · rw [htext 1 1 (by decide) (by decide), hpixel]
    rfl
  · rw [(hpaint _ 5 6).2.1 1 (by decide) (by decide), hdark]
    rfl
  · rw [(hpaint _ 5 6).2.2 2048 (Nat.le_refl _), Array.getElem?_replicate]
    rfl
  · obtain ⟨-, -, -, -, -, -, hpainted⟩ := views_agree b'
    exact hpainted _ _ _ 5 6 (by decide) (Nat.le_of_eq Array.size_replicate.symm)
  · exact (hshown _ rfl).symm

end Bitmap

end Chip8
