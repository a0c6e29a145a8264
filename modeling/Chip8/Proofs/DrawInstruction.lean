import Chip8.Proofs.Drawing
import Chip8.Proofs.Execution
import Mathlib.Data.Nat.ModEq

/-!
# The draw instruction

On a display that is wide enough for a byte and tall enough for all rows, a sprite does not meet
itself when it wraps around (`nodup_spriteCells`). So what a draw flips is a set of cells, the
`Machine.spriteArea` of the instruction on the frame buffer, and a lit cell is hit if and only if
one of them was lit before. Executed a second time the instruction flips the same cells back, unless
one of its coordinates stands in the flag register, which the first execution has overwritten.
-/

namespace Chip8

/-! ## Sprites that do not meet themselves -/

/-- Going on from one place around a ring, different distances lead to different places. -/
private theorem add_mod_inj {width a j j' : Nat} (hj : j < width) (hj' : j' < width)
    (heq : (a + j) % width = (a + j') % width) : j = j' :=
  (Nat.ModEq.add_left_cancel' a heq).eq_of_lt_of_lt hj hj'

/-- At most one set bit falls on each cell of a display that is at least as large as the sprite. -/
theorem coverage_le_one {width height x y : Nat} {sprite : List UInt8} (hwidth : 8 ≤ width)
    (hheight : sprite.length ≤ height) (cell : Nat × Nat) :
    coverage width height x y sprite cell ≤ 1 := by
  rw [coverage, Finset.card_le_one]
  rintro ⟨i, j⟩ hbit ⟨i', j'⟩ hbit'
  obtain ⟨-, hcell⟩ := (Finset.mem_filter.1 hbit).2
  obtain ⟨-, hcell'⟩ := (Finset.mem_filter.1 hbit').2
  obtain ⟨hcolumn, hrow⟩ := Prod.ext_iff.1 (hcell.trans hcell'.symm)
  have hi := add_mod_inj (i.isLt.trans_le hheight) (i'.isLt.trans_le hheight) hrow
  have hj := add_mod_inj (j.isLt.trans_le hwidth) (j'.isLt.trans_le hwidth) hcolumn
  rw [Prod.mk.injEq]
  exact ⟨Fin.ext hi, Fin.ext hj⟩

/-- A sprite flips each cell of a display that is at least as large once or not at all. -/
theorem nodup_spriteCells {width height x y : Nat} {sprite : List UInt8} (hwidth : 8 ≤ width)
    (hheight : sprite.length ≤ height) : (spriteCells width height x y sprite).Nodup := by
  rw [List.nodup_iff_count_le_one]
  intro cell
  rw [count_spriteCells]
  exact coverage_le_one hwidth hheight cell

/-- The cells under a sprite. -/
theorem mem_spriteCells_iff {width height x y : Nat} {sprite : List UInt8} {cell : Nat × Nat} :
    cell ∈ spriteCells width height x y sprite ↔
      ∃ i j, ∃ hi : i < sprite.length, j < 8 ∧ sprite[i].toNat.testBit (7 - j) ∧
        ((x % width + j) % width, (y % height + i) % height) = cell := by
  simp only [spriteCells, setBits, List.mem_flatMap, List.mem_map, List.mem_filter, List.mem_range]
  constructor
  · rintro ⟨⟨b, i⟩, hrow, j, ⟨hj, hbit⟩, hcell⟩
    obtain ⟨hi, rfl⟩ := List.getElem?_eq_some_iff.1 (List.mk_mem_zipIdx_iff_getElem?.1 hrow)
    exact ⟨i, j, hi, hj, hbit, hcell⟩
  · rintro ⟨i, j, hi, hj, hbit, hcell⟩
    have hrow := List.mk_mem_zipIdx_iff_getElem?.2 (List.getElem?_eq_getElem hi)
    exact ⟨(sprite[i], i), hrow, j, ⟨hj, hbit⟩, hcell⟩

namespace Drawing.Flipped

variable {D : Type} [Display D] {s s' : Drawing D} {cells : List (Nat × Nat)}

/-- Cells that are flipped once or not at all change if they are flipped. -/
theorem pixel_eq_of_nodup (h : s.Flipped cells s') (hnodup : cells.Nodup) {cell : Nat × Nat}
    (hcell : OnDisplay s.display cell) :
    Display.pixel s'.display cell.1 cell.2 =
      (Display.pixel s.display cell.1 cell.2 ^^ decide (cell ∈ cells)) := by
  rw [h.pixel_eq cell hcell, hnodup.count]
  by_cases hmem : cell ∈ cells <;> simp [hmem]

/-- If no cell comes twice, then what is found lit was lit at the start. -/
theorem collision_iff_of_nodup (h : s.Flipped cells s') (hnodup : cells.Nodup) :
    s'.collision = true ↔
      s.collision = true ∨ ∃ cell ∈ cells, Display.pixel s.display cell.1 cell.2 = true := by
  have honce : ∀ cell, ¬ 2 ≤ cells.count cell := by
    intro cell
    have := List.nodup_iff_count_le_one.1 hnodup cell
    omega
  simp only [h.collision_iff, honce, or_false]

end Drawing.Flipped

namespace Machine

variable {K : Type}

/-! ## Executing the instruction -/

/-- The bytes that the index register points to, as many as a sprite has rows. -/
def spriteAtIndex {D : Type} (m : Machine D K) (n : Nibble) : List UInt8 :=
  (List.range n.val).map fun i => m.memory.byte (m.index.toNat + i)

/-- The machine with the sprite of `n` rows drawn to where `VX` and `VY` say. -/
def drawn {D : Type} [Display D] (m : Machine D K) (x y n : Nibble) : Machine D K :=
  let drawing := drawSprite m.display (m.registers.get x) (m.registers.get y) (m.spriteAtIndex n)
  { m with display := drawing.display, registers := m.registers.setFlag drawing.collision }

/-- A draw succeeds if its sprite ends inside memory. -/
theorem execute_draw_of_le {D : Type} [Display D] [KeySource K] {m : Machine D K} {x y n : Nibble}
    (hmemory : m.index.toNat + n.val ≤ 4096) :
    m.execute (.draw x y n) = .ok ⟨m.drawn x y n, .executed, []⟩ := by
  rw [execute, m.memory.read_of_le hmemory]
  rfl

/-- A step that executes a draw whose sprite ends inside memory. -/
theorem step_draw_of_le {D : Type} [Display D] [KeySource K] {m : Machine D K} {x y n : Nibble}
    (hnext : m.nextInstruction? = some (.draw x y n))
    (hmemory : m.index.toNat + n.val ≤ 4096) :
    ∃ word, m.step = ⟨(m.drawn x y n).afterFetch word, .ok .executed, [.fetched m.pc word]⟩ :=
  (Executes.of_afterFetch (execute_draw_of_le hmemory)
    fun _ => execute_draw_of_le hmemory).step_eq hnext

/-- A draw changes no register but the flag. -/
theorem get_drawn_of_ne {D : Type} [Display D] (m : Machine D K) (x y n : Nibble) {z : Nibble}
    (hz : z ≠ Registers.flag) : (m.drawn x y n).registers.get z = m.registers.get z := by
  unfold drawn
  rw [Registers.get_setFlag, if_neg hz.symm]

/-! ## On the frame buffer -/

/-- The cells of the frame buffer under the set bits of the sprite of `n` rows that the index
register points to, its upper left corner at the column in `VX` and the row in `VY`. -/
def spriteArea (m : Machine FrameBuffer K) (x y n : Nibble) : Finset (Nat × Nat) :=
  ((Finset.range n.val ×ˢ Finset.range 8).filter fun p =>
    (m.memory.byte (m.index.toNat + p.1)).toNat.testBit (7 - p.2)).image fun p =>
      (((m.registers.get x).toNat + p.2) % 64, ((m.registers.get y).toNat + p.1) % 32)

variable {m : Machine FrameBuffer K} {x y n : Nibble}

theorem mem_spriteArea_iff {cell : Nat × Nat} :
    cell ∈ m.spriteArea x y n ↔
      ∃ i j, i < n.val ∧ j < 8 ∧
        (m.memory.byte (m.index.toNat + i)).toNat.testBit (7 - j) ∧
        (((m.registers.get x).toNat + j) % 64, ((m.registers.get y).toNat + i) % 32) = cell := by
  simp [spriteArea, and_assoc]

/-- The area of a sprite are the cells that drawing it flips. -/
theorem mem_spriteCells_iff_mem_spriteArea {cell : Nat × Nat} :
    cell ∈ spriteCells 64 32 (m.registers.get x).toNat (m.registers.get y).toNat
      (m.spriteAtIndex n) ↔ cell ∈ m.spriteArea x y n := by
  simp only [mem_spriteCells_iff, mem_spriteArea_iff, spriteAtIndex, List.length_map,
    List.length_range, List.getElem_map, List.getElem_range, Nat.mod_add_mod, exists_prop]

theorem lt_of_mem_spriteArea {cell : Nat × Nat} (h : cell ∈ m.spriteArea x y n) :
    cell.1 < 64 ∧ cell.2 < 32 := by
  obtain ⟨i, j, -, -, -, rfl⟩ := mem_spriteArea_iff.1 h
  exact ⟨Nat.mod_lt _ (by decide), Nat.mod_lt _ (by decide)⟩

/-- A sprite with a set bit covers a cell. -/
theorem nonempty_spriteArea (h : ∃ i < n.val, m.memory.byte (m.index.toNat + i) ≠ 0) :
    (m.spriteArea x y n).Nonempty := by
  obtain ⟨i, hi, hbyte⟩ := h
  have hne : (m.memory.byte (m.index.toNat + i)).toNat ≠ 0 := fun h => hbyte (UInt8.toNat.inj h)
  obtain ⟨k, hbit⟩ := Nat.exists_testBit_of_ne_zero hne
  have hk : k < 8 := by
    by_contra hge
    have hlt := (m.memory.byte (m.index.toNat + i)).toNat_lt
    rw [Nat.testBit_lt_two_pow (hlt.trans_le (Nat.pow_le_pow_right (by decide) (by omega)))] at hbit
    cases hbit
  refine ⟨_, mem_spriteArea_iff.2 ⟨i, 7 - k, hi, by omega, ?_, rfl⟩⟩
  rwa [show 7 - (7 - k) = k by omega]

variable (m x y n)

/-- A draw flips the cells of its area, each of them once. -/
private theorem flipped_drawSprite_frameBuffer :
    let cells := spriteCells 64 32 (m.registers.get x).toNat (m.registers.get y).toNat
      (m.spriteAtIndex n)
    cells.Nodup ∧ Drawing.Flipped ⟨m.display, false⟩ cells
      (drawSprite m.display (m.registers.get x) (m.registers.get y) (m.spriteAtIndex n)) := by
  have hlength : (m.spriteAtIndex n).length ≤ 32 := by
    have := n.isLt
    simp only [spriteAtIndex, List.length_map, List.length_range]
    omega
  have hwidth : 0 < Display.width m.display := Nat.zero_lt_succ 63
  have hheight : 0 < Display.height m.display := Nat.zero_lt_succ 31
  exact ⟨nodup_spriteCells (by decide) hlength, flipped_drawSprite hwidth hheight _ _ _⟩

/-- A draw flips exactly the cells of its area. -/
theorem pixel_drawn {a b : Nat} (ha : a < 64) (hb : b < 32) :
    (m.drawn x y n).display.pixel a b =
      (m.display.pixel a b ^^ decide ((a, b) ∈ m.spriteArea x y n)) := by
  obtain ⟨hnodup, hflipped⟩ := flipped_drawSprite_frameBuffer m x y n
  have hcell : OnDisplay m.display (a, b) := ⟨ha, hb⟩
  have hpixel := hflipped.pixel_eq_of_nodup hnodup hcell
  simp only [mem_spriteCells_iff_mem_spriteArea] at hpixel
  exact hpixel

/-- A draw sets the flag if a cell of its area was lit, and otherwise clears it. -/
theorem get_flag_drawn :
    (m.drawn x y n).registers.get Registers.flag =
      if ∃ cell ∈ m.spriteArea x y n, m.display.pixel cell.1 cell.2 = true then 1 else 0 := by
  obtain ⟨hnodup, hflipped⟩ := flipped_drawSprite_frameBuffer m x y n
  have hcollision := hflipped.collision_iff_of_nodup hnodup
  simp only [mem_spriteCells_iff_mem_spriteArea, Bool.false_eq_true, false_or] at hcollision
  unfold drawn
  rw [Registers.get_setFlag, if_pos rfl]
  exact if_congr hcollision rfl rfl

/-! ## Executing it twice -/

variable {x y}

/-- The instruction has the same area once it has been executed, if the flag is none of its
coordinates. -/
theorem spriteArea_drawn (hx : x ≠ Registers.flag) (hy : y ≠ Registers.flag) :
    (m.drawn x y n).spriteArea x y n = m.spriteArea x y n := by
  unfold spriteArea
  rw [get_drawn_of_ne m x y n hx, get_drawn_of_ne m x y n hy]
  rfl

/-- The second execution flips the same cells back. -/
theorem display_drawn_drawn (hx : x ≠ Registers.flag) (hy : y ≠ Registers.flag) :
    ((m.drawn x y n).drawn x y n).display = m.display := by
  apply Bitmap.ext_pixel
  intro a b ha hb
  rw [pixel_drawn _ x y n ha hb, pixel_drawn m x y n ha hb, spriteArea_drawn m n hx hy,
    Bool.xor_assoc, Bool.xor_self, Bool.xor_false]

/-- The second execution sets the flag if a cell of the area was off at the start. -/
theorem get_flag_drawn_drawn (hx : x ≠ Registers.flag) (hy : y ≠ Registers.flag) :
    ((m.drawn x y n).drawn x y n).registers.get Registers.flag =
      if ∃ cell ∈ m.spriteArea x y n, m.display.pixel cell.1 cell.2 = false then 1 else 0 := by
  rw [get_flag_drawn, spriteArea_drawn m n hx hy]
  refine if_congr (exists_congr fun cell => and_congr_right fun hcell => ?_) rfl rfl
  obtain ⟨ha, hb⟩ := lt_of_mem_spriteArea hcell
  rw [pixel_drawn m x y n ha hb, decide_eq_true hcell, Bool.xor_true, Bool.not_eq_true']

/-- After two executions nothing but the flag may have changed. -/
theorem drawn_drawn (hx : x ≠ Registers.flag) (hy : y ≠ Registers.flag) :
    (m.drawn x y n).drawn x y n =
      { m with registers := ((m.drawn x y n).drawn x y n).registers } :=
  congrArg (fun display =>
    { m with display, registers := ((m.drawn x y n).drawn x y n).registers })
    (display_drawn_drawn m n hx hy)

/-- If the sprite has a set bit then the second execution reports a collision, unless the first one
does. -/
theorem get_flag_drawn_drawn_of_bit (hx : x ≠ Registers.flag) (hy : y ≠ Registers.flag)
    (hbits : ∃ i < n.val, m.memory.byte (m.index.toNat + i) ≠ 0)
    (hzero : (m.drawn x y n).registers.get Registers.flag = 0) :
    ((m.drawn x y n).drawn x y n).registers.get Registers.flag = 1 := by
  obtain ⟨cell, hcell⟩ : (m.spriteArea x y n).Nonempty := nonempty_spriteArea hbits
  have hdark : m.display.pixel cell.1 cell.2 = false := by
    rw [Bool.eq_false_iff]
    intro hlit
    rw [get_flag_drawn, if_pos ⟨cell, hcell, hlit⟩] at hzero
    cases hzero
  rw [get_flag_drawn_drawn m n hx hy, if_pos ⟨cell, hcell, hdark⟩]

/-- Two steps that execute the same draw, one after the other, leave the display as it was. -/
theorem display_step_step_of_draw [KeySource K] (hx : x ≠ Registers.flag)
    (hy : y ≠ Registers.flag) (hmemory : m.index.toNat + n.val ≤ 4096)
    (hfirst : m.nextInstruction? = some (.draw x y n))
    (hsecond : m.step.machine.nextInstruction? = some (.draw x y n)) :
    m.step.machine.step.machine.display = m.display := by
  obtain ⟨word, hstep⟩ := step_draw_of_le hfirst hmemory
  rw [hstep] at hsecond ⊢
  obtain ⟨word', hstep'⟩ := step_draw_of_le hsecond hmemory
  rw [hstep']
  exact display_drawn_drawn m n hx hy

/-- **Drawing, and drawing again.** If its sprite ends inside memory, a draw flips exactly the cells
of its area. It sets the flag if one of them was lit and otherwise clears it, and changes nothing
else; the coordinates are read before, even from the flag register. If the flag is none of its
coordinates and the instruction is executed again right after, wherever it is fetched from, the
display is as it was at the start, also if two steps do this, and so is every register but the flag,
which is set if a cell of the area was off at the start. So if the sprite has a set bit, one of the
two executions reports a collision, and the second does if the first does not. -/
theorem draw_and_draw_again [KeySource K] (m : Machine FrameBuffer K) (x y n : Nibble)
    (hmemory : m.index.toNat + n.val ≤ 4096) :
    let area := m.spriteArea x y n
    ∃ m₁ : Machine FrameBuffer K,
      m.execute (.draw x y n) = .ok ⟨m₁, .executed, []⟩ ∧
      (m.nextInstruction? = some (.draw x y n) →
        ∃ word, m.step = ⟨m₁.afterFetch word, .ok .executed, [.fetched m.pc word]⟩) ∧
      m₁ = { m with display := m₁.display, registers := m₁.registers } ∧
      (∀ a b, a < 64 → b < 32 →
        m₁.display.pixel a b = (m.display.pixel a b ^^ decide ((a, b) ∈ area))) ∧
      (∀ z, z ≠ Registers.flag → m₁.registers.get z = m.registers.get z) ∧
      m₁.registers.get Registers.flag =
        (if ∃ cell ∈ area, m.display.pixel cell.1 cell.2 = true then 1 else 0) ∧
      (x ≠ Registers.flag → y ≠ Registers.flag →
        m.nextInstruction? = some (.draw x y n) →
        m.step.machine.nextInstruction? = some (.draw x y n) →
          m.step.machine.step.machine.display = m.display) ∧
      (x ≠ Registers.flag → y ≠ Registers.flag → ∃ registers,
        (∀ pc opcode, ({ m₁ with pc, opcode } : Machine FrameBuffer K).execute (.draw x y n) =
          .ok ⟨{ m with pc, opcode, registers }, .executed, []⟩) ∧
        (∀ z, z ≠ Registers.flag → registers.get z = m.registers.get z) ∧
        registers.get Registers.flag =
          (if ∃ cell ∈ area, m.display.pixel cell.1 cell.2 = false then 1 else 0) ∧
        ((∃ i < n.val, m.memory.byte (m.index.toNat + i) ≠ 0) →
          (m₁.registers.get Registers.flag = 1 ∨ registers.get Registers.flag = 1) ∧
          (m₁.registers.get Registers.flag = 0 → registers.get Registers.flag = 1))) := by
  intro area
  refine ⟨m.drawn x y n, execute_draw_of_le hmemory, fun hnext => step_draw_of_le hnext hmemory,
    rfl, fun a b ha hb => pixel_drawn m x y n ha hb, fun z hz => get_drawn_of_ne m x y n hz,
    get_flag_drawn m x y n, fun hx hy => display_step_step_of_draw m n hx hy hmemory,
    fun hx hy => ?_⟩
  refine ⟨((m.drawn x y n).drawn x y n).registers, fun pc opcode => ?_, fun z hz => ?_,
    get_flag_drawn_drawn m n hx hy, fun hbits => ?_⟩
  · let m₂ : Machine FrameBuffer K := { (m.drawn x y n).drawn x y n with pc, opcode }
    have hm₂ : m₂ =
        { m with pc, opcode, registers := ((m.drawn x y n).drawn x y n).registers } :=
      congrArg (fun m' : Machine FrameBuffer K => { m' with pc, opcode }) (drawn_drawn m n hx hy)
    rw [← hm₂]
    exact execute_draw_of_le hmemory
  · rw [get_drawn_of_ne _ x y n hz, get_drawn_of_ne m x y n hz]
  · have hsecond := get_flag_drawn_drawn_of_bit m n hx hy hbits
    refine ⟨?_, hsecond⟩
    by_cases hlit : ∃ cell ∈ area, m.display.pixel cell.1 cell.2 = true
    · exact .inl ((get_flag_drawn m x y n).trans (if_pos hlit))
    · exact .inr (hsecond ((get_flag_drawn m x y n).trans (if_neg hlit)))

/-- A zero is drawn over the top row of another zero, which is lit, and over four dark rows: both
executions report a collision, and afterwards the display is as it was. -/
theorem draw_and_draw_again_lit_row :
    ∃ m m₁ m₂ : Machine FrameBuffer Keypad, m.Reachable ∧
      m.nextInstruction? = some (.draw 0 1 5) ∧ m.display.pixel 3 0 = true ∧
      m.display.pixel 3 1 = false ∧
      m.execute (.draw 0 1 5) = .ok ⟨m₁, .executed, []⟩ ∧
      m₁.execute (.draw 0 1 5) = .ok ⟨m₂, .executed, []⟩ ∧
      m₁.registers.get Registers.flag = 1 ∧ m₂.registers.get Registers.flag = 1 ∧
      m₂.display = m.display := by
  let config : Config := ⟨.vy, 0, some 8⟩
  let events : List (Event Keypad) := [.load [0xD0, 0x11, 0xD0, 0x15], .step]
  let m : Machine FrameBuffer Keypad :=
    (create config (Bitmap.blank 64 32) Keypad.released (Vector.replicate 8 0)).after events
  have hstart : m.nextInstruction? = some (.draw 0 1 5) ∧ m.display.pixel 3 0 = true ∧
      m.display.pixel 3 1 = false ∧ m.index.toNat + (5 : Nibble).val ≤ 4096 := by decide +kernel
  have harea : (3, 0) ∈ m.spriteArea 0 1 5 ∧ (3, 1) ∈ m.spriteArea 0 1 5 := by decide +kernel
  obtain ⟨hnext, hlit, hdark, hmemory⟩ := hstart
  obtain ⟨m₁, hfirst, -, -, -, -, hflag₁, -, hagain⟩ := draw_and_draw_again m 0 1 5 hmemory
  obtain ⟨registers, hsecond, -, hflag₂, -⟩ := hagain (by decide) (by decide)
  rw [if_pos ⟨(3, 0), harea.1, hlit⟩] at hflag₁
  rw [if_pos ⟨(3, 1), harea.2, hdark⟩] at hflag₂
  exact ⟨m, m₁, _, ⟨_, _, _, _, _, rfl⟩, hnext, hlit, hdark, hfirst, hsecond m₁.pc m₁.opcode,
    hflag₁, hflag₂, rfl⟩

end Machine

end Chip8
