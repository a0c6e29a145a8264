import Chip8.Display.Bitmap
import Chip8.Proofs.Bounds
import Chip8.Proofs.Decoding

/-!
# No operation leaves its range

The operations of the machine are total: a sum that is too large wraps around, and a range that does
not fit a vector is cut. This module retells them for a computer that gives up in such a case. A
guarded operation gives `none` where a sum or product is too large for its type, a difference would
be negative, a remainder is taken by zero, an index or a range lies outside its array, or a copy has
sides of different lengths; everywhere else it does what the machine does. Operations that cannot
fail, whatever their operands, are left as they are. How a display keeps its cells is its own
matter; for bitmaps `Bitmap.drawGuarded?` checks the places of the cells too, and on the frame
buffer they are always in range (`FrameBuffer.drawGuarded?_eq_some`).

`Machine.performGuarded?` is the guarded machine. It agrees with the machine itself on every bounded
machine (`Machine.Bounded.performGuarded?_eq_some`), and all reachable machines are bounded.
-/

namespace Chip8

/-! ## Arithmetic and arrays -/

namespace Guarded

/-- A sum of two 16-bit numbers that has 16 bits. -/
def sum? (a b : UInt16) : Option UInt16 :=
  if a.toNat + b.toNat < 65536 then some (a + b) else none

/-- A difference of two 16-bit numbers that is not negative. -/
def difference? (a b : UInt16) : Option UInt16 :=
  if b.toNat ≤ a.toNat then some (a - b) else none

/-- A product of two 16-bit numbers that has 16 bits. -/
def product? (a b : UInt16) : Option UInt16 :=
  if a.toNat * b.toNat < 65536 then some (a * b) else none

/-- A sum of two sizes that a machine word holds, also one of 32 bits. -/
def sizeSum? (a b : Nat) : Option Nat := if a + b < 4294967296 then some (a + b) else none

/-- A product of two sizes that a machine word holds, also one of 32 bits. -/
def sizeProduct? (a b : Nat) : Option Nat := if a * b < 4294967296 then some (a * b) else none

/-- A remainder by a number other than zero. -/
def remainder? (a b : Nat) : Option Nat := if b = 0 then none else some (a % b)

section

variable {α : Type} {n : Nat}

/-- An array with another value at an index. -/
def set? (v : Vector α n) (i : Nat) (a : α) : Option (Vector α n) :=
  if i < n then some (v.setIfInBounds i a) else none

/-- The part of an array from one index up to another. -/
def slice? (v : Vector α n) (start stop : Nat) : Option (List α) :=
  if start ≤ stop ∧ stop ≤ n then some ((v.toList.drop start).take (stop - start)) else none

/-- An array with a part overwritten by as many values. -/
def copy? (v : Vector α n) (start stop : Nat) (values : List α) : Option (Vector α n) :=
  if start ≤ stop ∧ stop ≤ n ∧ values.length = stop - start then some (overlay v start values)
  else none

end

variable {a b : UInt16} {i j : Nat}

theorem sum?_eq_some (h : a.toNat + b.toNat < 65536) : sum? a b = some (a + b) := if_pos h

theorem difference?_eq_some (h : b.toNat ≤ a.toNat) : difference? a b = some (a - b) := if_pos h

theorem product?_eq_some (h : a.toNat * b.toNat < 65536) : product? a b = some (a * b) := if_pos h

theorem sizeSum?_eq_some (h : i + j < 4294967296) : sizeSum? i j = some (i + j) := if_pos h

theorem sizeProduct?_eq_some (h : i * j < 4294967296) : sizeProduct? i j = some (i * j) := if_pos h

theorem remainder?_eq_some (h : 0 < j) : remainder? i j = some (i % j) := if_neg (by omega)

variable {α : Type} {n start stop : Nat}

theorem set?_eq_some {v : Vector α n} {i : Nat} (h : i < n) (a : α) :
    set? v i a = some (v.setIfInBounds i a) := if_pos h

theorem slice?_eq_some {v : Vector α n} (h : start ≤ stop ∧ stop ≤ n) :
    slice? v start stop = some ((v.toList.drop start).take (stop - start)) := if_pos h

theorem copy?_eq_some {v : Vector α n} {values : List α}
    (h : start ≤ stop ∧ stop ≤ n ∧ values.length = stop - start) :
    copy? v start stop values = some (overlay v start values) := if_pos h

/-- Going through a list succeeds if it succeeds at every entry. -/
theorem mapM_eq_some {β : Type} {l : List α} {f : α → Option β} {g : α → β}
    (h : ∀ a ∈ l, f a = some (g a)) : l.mapM f = some (l.map g) := by
  induction l with
  | nil => rfl
  | cons a l ih =>
    rw [List.mapM_cons, h a List.mem_cons_self,
      ih fun b hb => h b (List.mem_cons_of_mem a hb)]
    rfl

end Guarded

open Guarded

/-! ## Memory -/

namespace Memory

/-- A new memory. -/
def createGuarded? (requested : Address) : Option Memory := do
  let highest ← difference? programStart 80
  let base := if requested ≤ highest then requested else highest
  let stop ← sizeSum? base.toNat Font.size
  let bytes ← copy? (Vector.replicate 4096 0) base.toNat stop Font.bytes
  return ⟨bytes, base⟩

/-- The address of the picture of a digit. -/
def glyphAddressGuarded? (m : Memory) (digit : UInt8) : Option Address := do
  sum? m.fontBase (← product? 5 digit.toUInt16)

/-- The first address of a range and the one after its last, if the range ends inside memory. -/
def rangeGuarded? (address length : Nat) : Option (Except Fault (Nat × Nat)) := do
  let stop ← sizeSum? address length
  return if 4096 < stop then .error (.addressOutOfRange (max address 4096))
    else .ok (address, stop)

/-- The bytes of a range of addresses. -/
def readGuarded? (m : Memory) (address length : Nat) : Option (Except Fault (List UInt8)) := do
  match ← rangeGuarded? address length with
  | .ok (start, stop) => return .ok (← slice? m.bytes start stop)
  | .error fault => return .error fault

/-- Replace the bytes of a range of addresses. -/
def writeGuarded? (m : Memory) (address length : Nat) (data : List UInt8) :
    Option (Except Fault Memory) := do
  match ← rangeGuarded? address length with
  | .ok (start, stop) => return .ok { m with bytes := ← copy? m.bytes start stop data }
  | .error fault => return .error fault

/-- The instruction word at an address. -/
def fetchGuarded? (m : Memory) (address : Address) : Option (Option Opcode) := do
  let second ← sizeSum? address.toNat 1
  if 4096 ≤ second then return none
  else return some (.ofBytes (← m.bytes[address.toNat]?) (← m.bytes[second]?))

/-- Put a program into memory. -/
def loadGuarded? (m : Memory) (program : List UInt8) : Option (Except Fault Memory) := do
  if maxProgramSize < program.length then
    return .error (.programTooLarge program.length maxProgramSize)
  else
    let stop ← sizeSum? programStart.toNat program.length
    return .ok { m with bytes := ← copy? m.bytes programStart.toNat stop program }

/-- Making a memory stays in range for every requested place of the font. -/
theorem createGuarded?_eq_some (requested : Address) :
    createGuarded? requested = some (create requested) := by
  have hbase := toNat_fontBaseFor requested
  have hsize : Font.size = 80 := rfl
  have hlength := Font.length_bytes
  have hhighest : difference? programStart 80 = some highestFontBase := rfl
  have hstop : sizeSum? (fontBaseFor requested).toNat Font.size =
      some ((fontBaseFor requested).toNat + Font.size) := sizeSum?_eq_some (by omega)
  have hcopy : copy? (Vector.replicate 4096 (0 : UInt8)) (fontBaseFor requested).toNat
      ((fontBaseFor requested).toNat + Font.size) Font.bytes = some _ :=
    copy?_eq_some ⟨by omega, by omega, by omega⟩
  rw [createGuarded?, hhighest]
  -- the smaller of the requested and the highest place is the font base of the memory
  change (do
    let stop ← sizeSum? (fontBaseFor requested).toNat Font.size
    let bytes ← copy? (Vector.replicate 4096 0) (fontBaseFor requested).toNat stop Font.bytes
    return (⟨bytes, fontBaseFor requested⟩ : Memory)) = _
  rw [hstop, Option.bind_eq_bind, Option.bind_some, hcopy]
  rfl

variable {m : Memory} {address length : Nat}

/-- The address of a picture stays in range if the font does not lie in programs. -/
theorem glyphAddressGuarded?_eq_some (h : m.fontBase.toNat ≤ 0x1B0) (digit : UInt8) :
    m.glyphAddressGuarded? digit = some (m.glyphAddress digit) := by
  have := digit.toNat_lt
  have hfive : (5 : UInt16).toNat = 5 := rfl
  have hproduct : product? 5 digit.toUInt16 = some (5 * digit.toUInt16) :=
    product?_eq_some (by rw [hfive, UInt8.toNat_toUInt16]; omega)
  rw [glyphAddressGuarded?, hproduct, Option.bind_eq_bind, Option.bind_some]
  refine sum?_eq_some ?_
  rw [UInt16.toNat_mul, UInt8.toNat_toUInt16, hfive, Nat.mod_eq_of_lt (by omega)]
  omega

theorem rangeGuarded?_of_le (h : address + length ≤ 4096) :
    rangeGuarded? address length = some (.ok (address, address + length)) := by
  rw [rangeGuarded?, sizeSum?_eq_some (by omega), Option.bind_eq_bind, Option.bind_some,
    if_neg (by omega)]
  rfl

theorem rangeGuarded?_of_lt (h : 4096 < address + length)
    (hword : address + length < 4294967296) :
    rangeGuarded? address length = some (.error (.addressOutOfRange (max address 4096))) := by
  rw [rangeGuarded?, sizeSum?_eq_some hword, Option.bind_eq_bind, Option.bind_some, if_pos h]
  rfl

/-- What a read returns is the part of memory that it names. -/
theorem read_eq_slice (h : address + length ≤ 4096) :
    m.read address length = .ok ((m.bytes.toList.drop address).take length) := by
  rw [read, dif_pos h]
  congr 1
  apply List.ext_getElem
  · simp only [List.length_ofFn, List.length_take, List.length_drop, Vector.length_toList]
    omega
  · intro i hi hi'
    simp only [List.getElem_ofFn, List.getElem_take, List.getElem_drop, Vector.getElem_toList]

/-- A read checks its range before it takes a part of memory. -/
theorem readGuarded?_eq_some (hword : address + length < 4294967296) :
    m.readGuarded? address length = some (m.read address length) := by
  rcases Nat.lt_or_ge 4096 (address + length) with hlt | hle
  · rw [readGuarded?, rangeGuarded?_of_lt hlt hword, read_of_lt m hlt]
    rfl
  · rw [readGuarded?, rangeGuarded?_of_le hle, read_eq_slice hle, Option.bind_eq_bind,
      Option.bind_some]
    dsimp only
    rw [slice?_eq_some ⟨Nat.le_add_right _ _, hle⟩, Nat.add_sub_cancel_left]
    rfl

/-- A write checks its range before it overwrites a part of memory, with as many bytes. -/
theorem writeGuarded?_eq_some {data : List UInt8} (hlength : data.length = length)
    (hword : address + length < 4294967296) :
    m.writeGuarded? address length data = some (m.write address data) := by
  subst hlength
  rcases Nat.lt_or_ge 4096 (address + data.length) with hlt | hle
  · rw [writeGuarded?, rangeGuarded?_of_lt hlt hword, write_eq, if_neg (by omega)]
    rfl
  · rw [writeGuarded?, rangeGuarded?_of_le hle, write_of_le m hle, Option.bind_eq_bind,
      Option.bind_some]
    dsimp only
    rw [copy?_eq_some ⟨Nat.le_add_right _ _, hle, by omega⟩]
    rfl

/-- A fetch looks at two bytes only if both exist. -/
theorem fetchGuarded?_eq_some (m : Memory) (a : Address) :
    m.fetchGuarded? a = some (m.fetch? a) := by
  have := a.toNat_lt
  rw [fetchGuarded?, sizeSum?_eq_some (by omega), Option.bind_eq_bind, Option.bind_some]
  rcases Nat.lt_or_ge (a.toNat + 1) 4096 with hlt | hge
  · rw [if_neg (by omega), fetch?, dif_pos hlt, Vector.getElem?_eq_getElem hlt,
      Vector.getElem?_eq_getElem (by omega : a.toNat < 4096)]
    rfl
  · rw [if_pos hge, fetch?_of_le m hge]
    rfl

/-- Loading copies a program only if there is room for it. -/
theorem loadGuarded?_eq_some (m : Memory) (program : List UInt8) :
    m.loadGuarded? program = some (m.load program) := by
  have hmax : maxProgramSize = 3584 := rfl
  have hstart : programStart.toNat = 512 := rfl
  rcases Nat.lt_or_ge maxProgramSize program.length with hlt | hle
  · rw [loadGuarded?, if_pos hlt, load_of_lt m hlt]
    rfl
  · rw [loadGuarded?, if_neg (by omega), load_of_le m hle, sizeSum?_eq_some (by omega),
      Option.bind_eq_bind, Option.bind_some, copy?_eq_some ⟨by omega, by omega, by omega⟩]
    rfl

end Memory

/-! ## Call stack and timers -/

namespace CallStack

/-- Put an address on top, if a slot is free. -/
def pushGuarded? (s : CallStack) (a : Address) : Option (Option CallStack) := do
  if s.depth < 16 then
    let _ ← sizeSum? s.depth 1
  return s.push? a

/-- Take the top address off, if there is one. -/
def popGuarded? (s : CallStack) : Option (Option (Address × CallStack)) := do
  match s.pop? with
  | some (_, rest) => return some (← s.slots[rest.depth]?, rest)
  | none => return none

/-- The addresses in use, oldest first. -/
def addressesGuarded? (s : CallStack) : Option (List Address) := slice? s.slots 0 s.depth

variable (s : CallStack)

theorem pushGuarded?_eq_some (a : Address) : s.pushGuarded? a = some (s.push? a) := by
  have hle := s.depth_le
  rw [pushGuarded?, sizeSum?_eq_some (by omega)]
  split <;> rfl

/-- The slot that a pop reads is one of the sixteen. -/
theorem popGuarded?_eq_some : s.popGuarded? = some s.pop? := by
  -- the depth after the pop is the place of the slot that it reads
  cases hpop : s.pop? with
  | none =>
    rw [popGuarded?, hpop]
    rfl
  | some top =>
    obtain ⟨a, rest⟩ := top
    have hslot : s.slots[rest.depth]? = some a := by
      have hle := s.depth_le
      rw [pop?_eq] at hpop
      split at hpop
      · cases hpop
        exact Vector.getElem?_eq_getElem (by omega : s.depth - 1 < 16)
      · cases hpop
    rw [popGuarded?, hpop]
    dsimp only
    rw [hslot]
    rfl

theorem addressesGuarded?_eq_some : s.addressesGuarded? = some s.addresses := by
  rw [addressesGuarded?, slice?_eq_some ⟨Nat.zero_le _, s.depth_le⟩]
  rfl

end CallStack

namespace Timers

/-- Count down once, stopping at zero. -/
def tickTimerGuarded? (t : Timer) : Option Timer :=
  if t.isRunning then if 1 ≤ t.count.toNat then some ⟨t.count - 1⟩ else none else some t

/-- Both timers count down once. -/
def tickGuarded? (t : Timers) : Option Timers := do
  return ⟨← tickTimerGuarded? t.delay, ← tickTimerGuarded? t.sound⟩

/-- A timer that runs has something to count down. -/
theorem tickTimerGuarded?_eq_some (t : Timer) : tickTimerGuarded? t = some t.tick := by
  rw [tickTimerGuarded?, Timer.tick]
  split
  · rename_i hrunning
    -- a timer at zero does not run
    have hcount : t.count.toNat ≠ 0 := by
      intro hzero
      have : t.count = 0 := UInt8.toNat_inj.1 hzero
      rw [Timer.isRunning, this] at hrunning
      cases hrunning
    rw [if_pos (by omega)]
  · rfl

theorem tickGuarded?_eq_some (t : Timers) : t.tickGuarded? = some t.tick := by
  rw [tickGuarded?, tickTimerGuarded?_eq_some, tickTimerGuarded?_eq_some]
  rfl

end Timers

/-! ## Drawing -/

section

variable {D : Type} [Display D]

/-- The cells under the set bits of a row of a sprite, given with its number. -/
def rowCellsGuarded? (width height x y : Nat) (row : UInt8 × Nat) : Option (List (Nat × Nat)) := do
  let line ← remainder? (← sizeSum? y row.2) height
  (setBits row.1).mapM fun j => do
    return (← remainder? (← sizeSum? x j) width, line)

/-- The cells under the set bits of a sprite. -/
def spriteCellsGuarded? (width height : Nat) (x y : UInt8) (sprite : List UInt8) :
    Option (List (Nat × Nat)) := do
  let column ← remainder? x.toNat width
  let line ← remainder? y.toNat height
  let cells ← sprite.zipIdx.mapM (rowCellsGuarded? width height column line)
  return cells.flatten

/-- Draw a sprite with its upper left corner at a column and a row. How the display finds its cells
is its own matter. -/
def drawSpriteGuarded? (d : D) (x y : UInt8) (sprite : List UInt8) : Option (Drawing D) := do
  return flipCells d (← spriteCellsGuarded? (Display.width d) (Display.height d) x y sprite)

theorem rowCellsGuarded?_eq_some {width height x y : Nat} {row : UInt8 × Nat}
    (hwidth : 0 < width) (hheight : 0 < height) (hx : x < 256) (hy : y + row.2 < 4294967296) :
    rowCellsGuarded? width height x y row =
      some ((setBits row.1).map fun j => ((x + j) % width, (y + row.2) % height)) := by
  rw [rowCellsGuarded?, sizeSum?_eq_some hy, Option.bind_eq_bind, Option.bind_some,
    remainder?_eq_some hheight, Option.bind_eq_bind, Option.bind_some]
  refine mapM_eq_some fun j hj => ?_
  have hj : j < 8 := List.mem_range.1 (List.mem_filter.1 hj).1
  rw [sizeSum?_eq_some (by omega), Option.bind_some, remainder?_eq_some hwidth]
  rfl

/-- The cells of a sprite are found within range on a display with at least one cell, for every
sprite that an instruction can name and far longer ones. -/
theorem spriteCellsGuarded?_eq_some {width height : Nat} (hwidth : 0 < width)
    (hheight : 0 < height) (x y : UInt8) {sprite : List UInt8} (hlength : sprite.length < 65536) :
    spriteCellsGuarded? width height x y sprite =
      some (spriteCells width height x.toNat y.toNat sprite) := by
  -- the origin comes from two bytes, so that the sums stay small on displays of any size
  have hx : x.toNat % width < 256 := Nat.lt_of_le_of_lt (Nat.mod_le _ _) x.toNat_lt
  have hy : y.toNat % height < 256 := Nat.lt_of_le_of_lt (Nat.mod_le _ _) y.toNat_lt
  have hrows : sprite.zipIdx.mapM (rowCellsGuarded? width height (x.toNat % width)
      (y.toNat % height)) = some _ :=
    mapM_eq_some fun row hrow => rowCellsGuarded?_eq_some hwidth hheight hx (by
      have := List.snd_lt_of_mem_zipIdx hrow
      omega)
  rw [spriteCellsGuarded?, remainder?_eq_some hwidth, Option.bind_eq_bind, Option.bind_some,
    remainder?_eq_some hheight, Option.bind_eq_bind, Option.bind_some, hrows]
  rw [spriteCells, List.flatMap_def]
  rfl

/-- Drawing stays in range on a display with at least one cell. -/
theorem drawSpriteGuarded?_eq_some {d : D} (hwidth : 0 < Display.width d)
    (hheight : 0 < Display.height d) (x y : UInt8) {sprite : List UInt8}
    (hlength : sprite.length < 65536) :
    drawSpriteGuarded? d x y sprite = some (drawSprite d x y sprite) := by
  rw [drawSpriteGuarded?, spriteCellsGuarded?_eq_some hwidth hheight x y hlength]
  rfl

end

namespace Bitmap

variable {w h : Nat}

/-- The place in the vector of the cell in a column and a row. -/
def indexGuarded? (w h x y : Nat) : Option Nat := do
  let line ← remainder? y h
  let column ← remainder? x w
  sizeSum? (← sizeProduct? line w) column

/-- Flip one more cell of a drawing: look at its place in the vector, and write to it. -/
def flipGuarded? (s : Drawing (Bitmap w h)) (cell : Nat × Nat) :
    Option (Drawing (Bitmap w h)) := do
  let place ← indexGuarded? w h cell.1 cell.2
  let lit ← s.display.cells[place]?
  return ⟨⟨← set? s.display.cells place (!lit)⟩, s.collision || lit⟩

/-- Draw a sprite with its upper left corner at a column and a row. -/
def drawGuarded? (b : Bitmap w h) (x y : UInt8) (sprite : List UInt8) :
    Option (Drawing (Bitmap w h)) := do
  (← spriteCellsGuarded? w h x y sprite).foldlM flipGuarded? ⟨b, false⟩

theorem indexGuarded?_eq_some (hw : 0 < w) (hh : 0 < h) (hsize : w * h < 4294967296) (x y : Nat) :
    indexGuarded? w h x y = some (index w h x y) := by
  have hindex := index_lt (x := x) (y := y) hw hh
  rw [index] at hindex ⊢
  rw [indexGuarded?, remainder?_eq_some hh, Option.bind_eq_bind, Option.bind_some,
    remainder?_eq_some hw, Option.bind_some, sizeProduct?_eq_some (by omega), Option.bind_some,
    sizeSum?_eq_some (by omega)]

/-- Every cell that is flipped has its place in the vector. -/
theorem flipGuarded?_eq_some (hw : 0 < w) (hh : 0 < h) (hsize : w * h < 4294967296)
    (s : Drawing (Bitmap w h)) (cell : Nat × Nat) : flipGuarded? s cell = some (s.flip cell) := by
  have hindex := index_lt (x := cell.1) (y := cell.2) hw hh
  have hlit : s.display.cells[index w h cell.1 cell.2]? =
      some (s.display.pixel cell.1 cell.2) := by
    rw [pixel, Vector.getElem?_eq_getElem hindex, Option.getD_some]
  rw [flipGuarded?, indexGuarded?_eq_some hw hh hsize, Option.bind_eq_bind, Option.bind_some, hlit,
    Option.bind_eq_bind, Option.bind_some, set?_eq_some hindex]
  rfl

/-- Drawing on a bitmap stays in range down to the places of the cells. -/
theorem drawGuarded?_eq_some (hw : 0 < w) (hh : 0 < h) (hsize : w * h < 4294967296)
    (b : Bitmap w h) (x y : UInt8) {sprite : List UInt8} (hlength : sprite.length < 65536) :
    b.drawGuarded? x y sprite = some (drawSprite b x y sprite) := by
  have hflips (cells : List (Nat × Nat)) (s : Drawing (Bitmap w h)) :
      cells.foldlM flipGuarded? s = some (cells.foldl Drawing.flip s) := by
    induction cells generalizing s with
    | nil => rfl
    | cons cell cells ih =>
      rw [List.foldlM_cons, flipGuarded?_eq_some hw hh hsize, Option.bind_eq_bind,
        Option.bind_some, ih, List.foldl_cons]
  rw [drawGuarded?, spriteCellsGuarded?_eq_some hw hh x y hlength, Option.bind_eq_bind,
    Option.bind_some, hflips]
  rfl

end Bitmap

/-- Whatever is drawn on the frame buffer, each cell has one of its 2048 places, and drawing stays
in range. -/
theorem FrameBuffer.drawGuarded?_eq_some (b : FrameBuffer) (x y : UInt8) {sprite : List UInt8}
    (hlength : sprite.length < 65536) :
    (∀ cell ∈ spriteCells 64 32 x.toNat y.toNat sprite, Bitmap.index 64 32 cell.1 cell.2 < 2048) ∧
      b.drawGuarded? x y sprite = some (drawSprite b x y sprite) :=
  ⟨fun _ _ => Bitmap.index_lt (by decide) (by decide),
    Bitmap.drawGuarded?_eq_some (by decide) (by decide) (by decide) b x y hlength⟩

/-! ## The machine -/

namespace Machine

variable {D K : Type}

/-- A machine without a program. -/
def createGuarded? (config : Config) (display : D) (keypad : K) (entropy : KeyStream.Key) :
    Option (Machine D K) := do
  let memory ← Memory.createGuarded? config.fontBase
  return { create config display keypad entropy with memory }

/-- Start over with a program. -/
def loadGuarded? [Display D] (m : Machine D K) (program : List UInt8) :
    Option (Reply D K (Except Fault Unit)) := do
  let notes := Memory.fontMessages m.config.fontBase
  let memory ← Memory.createGuarded? m.config.fontBase
  match ← memory.loadGuarded? program with
  | .ok memory => return ⟨m.restart memory, .ok (), notes ++ [.loaded program.length]⟩
  | .error fault => return ⟨m, .error fault, notes⟩

/-- Start over with the program of a file. -/
def loadFileGuarded? [Display D] (m : Machine D K) (path : String)
    (contents : Option (List UInt8)) : Option (Reply D K (Except Fault Unit)) :=
  match contents with
  | some program => m.loadGuarded? program
  | none => some ⟨m, .error (.unreadableProgram path), []⟩

/-- Write as many bytes as announced to memory from the index register on. -/
def storeGuarded? (m : Machine D K) (length : Nat) (bytes : List UInt8) :
    Option (Except Fault (Effect D K)) := do
  match ← m.memory.writeGuarded? m.index.toNat length bytes with
  | .ok memory => return done { m with memory }
  | .error fault => return .error fault

/-- What an instruction does to a machine whose program counter stands after it. -/
def executeGuarded? [Display D] [KeySource K] (m : Machine D K) :
    Instruction → Option (Except Fault (Effect D K))
  | .ret => do
    let top ← m.stack.popGuarded?
    -- the address for a fault is computed whether or not there is one
    let site ← difference? m.pc 2
    match top with
    | some (pc, stack) => return done { m with pc, stack }
    | none => return .error (.stackUnderflow site)
  | .call target => do
    let pushed ← m.stack.pushGuarded? m.pc
    let site ← difference? m.pc 2
    match pushed with
    | some stack => return done { m with pc := target.toAddress, stack }
    | none => return .error (.stackOverflow site)
  | .jumpOffset target => do
    let pc ← sum? target.toAddress (m.registers.get 0).toUInt16
    return done { m with pc }
  | .draw x y n => do
    match ← m.memory.readGuarded? m.index.toNat n.val with
    | .ok sprite => do
      let drawing ← drawSpriteGuarded? m.display (m.registers.get x) (m.registers.get y) sprite
      return done { m with
        display := drawing.display
        registers := m.registers.setFlag drawing.collision }
    | .error fault => return .error fault
  | .pointGlyph x => do
    let index ← m.memory.glyphAddressGuarded? (m.registers.get x)
    return done { m with index }
  | .storeDecimal x => m.storeGuarded? 3 (decimalDigits (m.registers.get x))
  | .storeRegisters x => do
    let count ← sizeSum? x.val 1
    m.storeGuarded? count (← slice? m.registers.values 0 count)
  | .loadRegisters x => do
    match ← m.memory.readGuarded? m.index.toNat (← sizeSum? x.val 1) with
    | .ok bytes => return done { m with registers := m.registers.fill bytes }
    | .error fault => return .error fault
  -- the other instructions have no operation that could leave its range
  | i => some (m.execute i)

/-- Fetch an instruction and execute it. -/
def stepGuarded? [Display D] [KeySource K] (m : Machine D K) :
    Option (Reply D K (Except Fault Outcome)) := do
  if m.halted then return ⟨m, .ok .halted, []⟩
  else
    match ← m.memory.fetchGuarded? m.pc with
    | none => return ⟨{ m with halted := true }, .ok .halted, [.ranPastEnd m.pc]⟩
    | some word =>
      let i ← Instruction.decodeGuarded? word
      match ← (m.afterFetch word).executeGuarded? i with
      | .ok effect =>
        return ⟨effect.machine, .ok effect.outcome, .fetched m.pc word :: effect.messages⟩
      -- an instruction that fails has changed nothing (`Work.atomic_execute`)
      | .error fault =>
        return ⟨{ m.afterFetch word with halted := true }, .error fault,
          [.fetched m.pc word, .faulted fault]⟩

/-- What comes of one event. -/
def performGuarded? [Display D] [KeySource K] (m : Machine D K) :
    Event K → Option (Reply D K Answer)
  | .load program => return (← m.loadGuarded? program).map .loaded
  | .loadFile path contents => return (← m.loadFileGuarded? path contents).map .loaded
  | .step => return (← m.stepGuarded?).map .stepped
  | .tick => return ⟨{ m with timers := ← m.timers.tickGuarded? }, .none, []⟩
  | .changeKeys change => some ⟨m.changeKeys change, .none, []⟩

/-! ## The guarded machine is the machine -/

theorem createGuarded?_eq_some (config : Config) (display : D) (keypad : K)
    (entropy : KeyStream.Key) :
    createGuarded? config display keypad entropy =
      some (create config display keypad entropy) := by
  rw [createGuarded?, Memory.createGuarded?_eq_some]
  rfl

theorem loadGuarded?_eq_some [Display D] (m : Machine D K) (program : List UInt8) :
    m.loadGuarded? program = some (m.load program) := by
  rw [loadGuarded?, Memory.createGuarded?_eq_some, Option.bind_eq_bind, Option.bind_some,
    Memory.loadGuarded?_eq_some, Option.bind_eq_bind, Option.bind_some, load_eq]
  cases (Memory.create m.config.fontBase).load program <;> rfl

theorem loadFileGuarded?_eq_some [Display D] (m : Machine D K) (path : String)
    (contents : Option (List UInt8)) :
    m.loadFileGuarded? path contents = some (m.loadFile path contents) := by
  cases contents with
  | none => rfl
  | some program => exact m.loadGuarded?_eq_some program

theorem storeGuarded?_eq_some (m : Machine D K) {length : Nat} {bytes : List UInt8}
    (hlength : bytes.length = length) (hword : length < 65536) :
    m.storeGuarded? length bytes = some (m.store bytes) := by
  have := m.index.toNat_lt
  rw [storeGuarded?, Memory.writeGuarded?_eq_some hlength (by omega), Option.bind_eq_bind,
    Option.bind_some, store]
  cases m.memory.write m.index.toNat bytes <;> rfl

variable [Display D] [KeySource K] {m : Machine D K}

/-- An instruction that was fetched by a bounded machine stays in range: the two stack faults name
an address that is not negative, the two sums have sixteen bits, and what is copied fits. -/
theorem Fetched.executeGuarded?_eq_some (h : m.Fetched) (hwidth : 0 < Display.width m.display)
    (hheight : 0 < Display.height m.display) (i : Instruction) :
    m.executeGuarded? i = some (m.execute i) := by
  have hindex := m.index.toNat_lt
  have hsite : difference? m.pc 2 = some m.pc.previous := difference?_eq_some h.two_le_pc
  cases i
  -- the cases with a guarded operation; the last line is all the others
  case ret =>
    rw [executeGuarded?, CallStack.popGuarded?_eq_some, hsite, execute]
    cases m.stack.pop? <;> rfl
  case call target =>
    rw [executeGuarded?, CallStack.pushGuarded?_eq_some, hsite, execute]
    cases m.stack.push? m.pc <;> rfl
  case jumpOffset target =>
    have := target.isLt
    have := (m.registers.get 0).toNat_lt
    rw [executeGuarded?, sum?_eq_some]
    · rfl
    · rw [target.toNat_toAddress, UInt8.toNat_toUInt16]
      omega
  case draw x y n =>
    have := n.isLt
    rw [executeGuarded?, Memory.readGuarded?_eq_some (by omega), execute]
    cases hread : m.memory.read m.index.toNat n.val with
    | error fault => rfl
    | ok sprite =>
      have hlength : sprite.length < 65536 := by
        rw [Memory.length_of_read hread]
        omega
      rw [Option.bind_eq_bind, Option.bind_some]
      dsimp only
      rw [drawSpriteGuarded?_eq_some hwidth hheight _ _ hlength]
      rfl
  case pointGlyph x =>
    rw [executeGuarded?, Memory.glyphAddressGuarded?_eq_some h.fontBase_le]
    rfl
  case storeDecimal x => exact m.storeGuarded?_eq_some rfl (by omega)
  case storeRegisters x =>
    have := x.isLt
    rw [executeGuarded?, sizeSum?_eq_some (by omega), Option.bind_eq_bind, Option.bind_some,
      slice?_eq_some ⟨Nat.zero_le _, by omega⟩, Option.bind_eq_bind, Option.bind_some]
    exact m.storeGuarded?_eq_some (m.registers.length_upTo x) (by omega)
  case loadRegisters x =>
    have := x.isLt
    rw [executeGuarded?, sizeSum?_eq_some (by omega), Option.bind_eq_bind, Option.bind_some,
      Memory.readGuarded?_eq_some (by omega), execute]
    cases m.memory.read m.index.toNat (x.val + 1) <;> rfl
  all_goals rfl

/-- A step of a bounded machine stays in range. -/
theorem Bounded.stepGuarded?_eq_some (h : m.Bounded) (hwidth : 0 < Display.width m.display)
    (hheight : 0 < Display.height m.display) : m.stepGuarded? = some m.step := by
  rw [stepGuarded?, step_eq, Memory.fetchGuarded?_eq_some]
  cases m.halted with
  | true => rfl
  | false =>
    cases hfetch : m.memory.fetch? m.pc with
    | none => rfl
    | some word =>
      have hexecute := (h.afterFetch hfetch).executeGuarded?_eq_some hwidth hheight (.decode word)
      rw [Option.bind_eq_bind, Option.bind_some]
      dsimp only
      rw [Instruction.decodeGuarded?_eq_some, Option.bind_eq_bind, Option.bind_some, hexecute]
      cases (m.afterFetch word).execute (.decode word) <;> rfl

/-- Every event of a bounded machine stays in range. -/
theorem Bounded.performGuarded?_eq_some (h : m.Bounded) (hwidth : 0 < Display.width m.display)
    (hheight : 0 < Display.height m.display) (e : Event K) :
    m.performGuarded? e = some (m.perform e) := by
  cases e with
  | load program =>
    rw [performGuarded?, loadGuarded?_eq_some]
    rfl
  | loadFile path contents =>
    rw [performGuarded?, loadFileGuarded?_eq_some]
    rfl
  | step =>
    rw [performGuarded?, h.stepGuarded?_eq_some hwidth hheight]
    rfl
  | tick =>
    rw [performGuarded?, Timers.tickGuarded?_eq_some]
    rfl
  | changeKeys change => rfl

/-- **No program takes the machine out of range.** A machine that a host brings about by any events,
in any order, keeps its bounds. So the program counter after a fetch is at least two, the target of
an offset jump and the address of a picture have sixteen bits, and the addresses in use lie inside
the sixteen slots. Making the machine stays in range, and if its display has a cell then so does
every further event: no number leaves its type, no index and no range its array, and no copy has
sides of different lengths. A lawful display has a cell if it had one at the start. -/
theorem no_operation_leaves_range (config : Config) (display : D) (keypad : K)
    (entropy : KeyStream.Key) (events : List (Event K)) :
    let m := (create config display keypad entropy).after events
    createGuarded? config display keypad entropy = some (create config display keypad entropy) ∧
    m.Bounded ∧
    (∀ word, m.memory.fetch? m.pc = some word → 2 ≤ (m.afterFetch word).pc.toNat) ∧
    (∀ target : ShortAddress, target.val + (m.registers.get 0).toNat < 65536) ∧
    (∀ x, m.memory.fontBase.toNat + 5 * (m.registers.get x).toNat < 65536) ∧
    m.stack.addressesGuarded? = some m.stack.addresses ∧
    (0 < Display.width m.display → 0 < Display.height m.display →
      ∀ e, m.performGuarded? e = some (m.perform e)) ∧
    (LawfulDisplay D → 0 < Display.width display → 0 < Display.height display →
      ∀ e, m.performGuarded? e = some (m.perform e)) := by
  intro m
  have hbounded : m.Bounded := Reachable.bounded ⟨config, display, keypad, entropy, events, rfl⟩
  refine ⟨createGuarded?_eq_some config display keypad entropy, hbounded, ?_, ?_, ?_,
    m.stack.addressesGuarded?_eq_some, hbounded.performGuarded?_eq_some, ?_⟩
  · intro word hfetch
    exact (hbounded.afterFetch hfetch).two_le_pc
  · intro target
    have := target.isLt
    have := (m.registers.get 0).toNat_lt
    omega
  · intro x
    have := (m.registers.get x).toNat_lt
    have := hbounded.fontBase_le
    omega
  · intro hlawful hwidth hheight
    obtain ⟨hwidth', hheight'⟩ :=
      size_after (m := create config display keypad entropy) events hwidth hheight
    exact hbounded.performGuarded?_eq_some (hwidth'.trans_gt hwidth) (hheight'.trans_gt hheight)

/-- The highest address that a program counter reaches: `0xFF` after `0xFFF`. -/
theorem no_operation_leaves_range_highest_jump :
    ∃ m : Machine FrameBuffer Keypad, m.pc = 0x10FE ∧ m.Reachable ∧
      m.Bounded ∧ ∀ e, m.performGuarded? e = some (m.perform e) := by
  let config : Config := ⟨.vy, 0, some 8⟩
  let events : List (Event Keypad) := [.load [0x60, 0xFF, 0xBF, 0xFF], .step, .step]
  let blank : FrameBuffer := Bitmap.blank 64 32
  obtain ⟨-, hbounded, -, -, -, -, -, hguarded⟩ :=
    no_operation_leaves_range config blank Keypad.released (Vector.replicate 8 0) events
  exact ⟨_, by decide +kernel, ⟨_, _, _, _, _, rfl⟩, hbounded,
    hguarded inferInstance (by decide) (by decide)⟩

end Machine

end Chip8
