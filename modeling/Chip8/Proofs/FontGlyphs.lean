import Chip8.Proofs.DrawInstruction
import Chip8.Proofs.Environment
import Chip8.Proofs.MemoryHistory

/-!
# The pictures of the digits

A machine that is new or has just loaded a program holds the font (`Memory.HoldsFont`). No event
moves the font from then on, but nothing protects it either: a program that stores bytes there
replaces them like any others. So a byte of a picture stays until an event writes to its address
(`digits_until_overwritten`), and a digit can be drawn while the bytes of its picture are there
(`DrawsDigit`).
-/

namespace Chip8

namespace Machine

variable {D K : Type} [Display D] [KeySource K] {m : Machine D K}

/-! ## Where the font is -/

/-- A machine whose program has not run yet holds the font. -/
theorem Fresh.holdsFont (h : m.Fresh) : m.memory.HoldsFont m.config.fontBase := by
  cases h with
  | created config => exact .create config.fontBase
  | @loaded m e hprogram =>
    obtain ⟨program, hsome⟩ := Option.isSome_iff_exists.1 hprogram
    obtain ⟨memory, hload, hmachine⟩ := perform_of_program? hsome m
    rw [hmachine]
    exact (Memory.HoldsFont.create m.config.fontBase).load hload

/-- The font stays at its place until a program is loaded. -/
theorem fontBase_after (events : List (Event K)) (m : Machine D K)
    (hnone : ∀ e ∈ events, e.program? = none) :
    (m.after events).memory.fontBase = m.memory.fontBase := by
  induction events generalizing m with
  | nil => rfl
  | cons e events ih =>
    rw [after_cons, ih _ fun e' he' => hnone e' (List.mem_cons_of_mem e he')]
    rcases executed?_cases (hnone e List.mem_cons_self) m with
      ⟨word, effect, -, -, hexecute, hmachine⟩ | ⟨-, keypad, timers, pc, opcode, halted, hmachine⟩
    · rw [hmachine]
      exact (execute_change hexecute).fontBase
    · rw [hmachine]

/-- The pictures stay at their places until a program is loaded. -/
theorem glyphAddress_after (events : List (Event K)) (m : Machine D K)
    (hnone : ∀ e ∈ events, e.program? = none) (digit : UInt8) :
    (m.after events).memory.glyphAddress digit = m.memory.glyphAddress digit := by
  rw [Memory.glyphAddress, Memory.glyphAddress, m.fontBase_after events hnone]

/-! ## Drawing a digit -/

/-- If the machine points the index register to the picture of the digit and then, maybe after some
ticks and changes of the keypad, draws five rows, it draws the digit. -/
def DrawsDigit (m : Machine D K) (digit : Nibble) : Prop :=
  ∀ (x y z : Nibble) (between : List (Event K)),
    m.nextInstruction? = some (.pointGlyph x) → m.registers.get x = digit.toByte →
    (∀ e ∈ between, e.isAmbient = true) →
    let pointing := m.step.machine.after between
    pointing.nextInstruction? = some (.draw y z 5) →
    m.step.result = .ok .executed ∧ pointing.step.result = .ok .executed ∧
    pointing.step.machine.display =
      (drawSprite m.display (m.registers.get y) (m.registers.get z) (Font.glyph digit)).display

/-- Ticks and changes of the keypad change nothing else. -/
theorem after_of_isAmbient (events : List (Event K)) (m : Machine D K)
    (hambient : ∀ e ∈ events, e.isAmbient = true) :
    ∃ keypad timers, m.after events = { m with keypad, timers } := by
  induction events generalizing m with
  | nil => exact ⟨m.keypad, m.timers, rfl⟩
  | cons e events ih =>
    obtain ⟨keypad, timers, hafter⟩ :=
      ih (m.perform e).machine fun e' he' => hambient e' (List.mem_cons_of_mem e he')
    refine ⟨keypad, timers, hafter.trans ?_⟩
    have he := hambient e List.mem_cons_self
    cases e with
    | tick | changeKeys => rfl
    | load | loadFile | step => cases he

/-- A step that points the index register to a picture. -/
theorem step_pointGlyph {x : Nibble} (hnext : m.nextInstruction? = some (.pointGlyph x)) :
    ∃ word, m.step =
      ⟨{ m with index := m.memory.glyphAddress (m.registers.get x) }.afterFetch word, .ok .executed,
        [.fetched m.pc word]⟩ :=
  (Executes.of_afterFetch rfl fun _ => rfl).step_eq hnext

omit [Display D] [KeySource K] in
/-- The five rows from the picture of a digit on are the digit's if the bytes are. -/
theorem spriteAtIndex_glyph {digit : Nibble} (hindex : m.index = m.memory.glyphAddress digit.toByte)
    (hbytes : ∀ i (hi : i < (Font.glyph digit).length),
      m.memory.byte ((m.memory.glyphAddress digit.toByte).toNat + i) = (Font.glyph digit)[i]) :
    m.spriteAtIndex 5 = Font.glyph digit := by
  refine List.ext_getElem ?_ fun i _ hi => ?_
  · rw [spriteAtIndex, List.length_map, List.length_range]
    exact (Font.length_glyph digit).symm
  · rw [← hbytes i hi, ← hindex]
    simp only [spriteAtIndex, List.getElem_map, List.getElem_range]

/-- A digit whose picture is there can be drawn. -/
theorem drawsDigit_of_bytes {digit : Nibble} (hbase : m.memory.fontBase.toNat ≤ 0x1B0)
    (hbytes : ∀ i (hi : i < (Font.glyph digit).length),
      m.memory.byte ((m.memory.glyphAddress digit.toByte).toNat + i) = (Font.glyph digit)[i]) :
    m.DrawsDigit digit := by
  intro x y z between hnext hx hambient pointing hdraw
  obtain ⟨word, hstep⟩ := step_pointGlyph hnext
  obtain ⟨keypad, timers, hpointing⟩ :
      ∃ keypad timers, pointing = { m.step.machine with keypad, timers } :=
    after_of_isAmbient between m.step.machine hambient
  have hmemory : pointing.memory = m.memory := by rw [hpointing, hstep]; rfl
  have hregisters : pointing.registers = m.registers := by rw [hpointing, hstep]; rfl
  have hdisplay : pointing.display = m.display := by rw [hpointing, hstep]; rfl
  have hindex : pointing.index = pointing.memory.glyphAddress digit.toByte := by
    rw [hmemory, hpointing, hstep, ← hx]
    rfl
  have hrange : pointing.index.toNat + (5 : Nibble).val ≤ 4096 := by
    have hdigit := digit.isLt
    have hfive : (5 : Nibble).val = 5 := rfl
    rw [hindex, hmemory, Memory.toNat_glyphAddress hbase, digit.toNat_toByte]
    omega
  have hsprite : pointing.spriteAtIndex 5 = Font.glyph digit :=
    spriteAtIndex_glyph hindex (by rw [hmemory]; exact hbytes)
  obtain ⟨word', hstep'⟩ := step_draw_of_le hdraw hrange
  refine ⟨by rw [hstep], by rw [hstep'], ?_⟩
  rw [hstep']
  show (drawSprite pointing.display (pointing.registers.get y) (pointing.registers.get z)
    (pointing.spriteAtIndex 5)).display = _
  rw [hsprite, hdisplay, hregisters]

/-! ## Whole histories -/

/-- **The pictures of the digits stay until they are overwritten.** Take a new machine, or one that
has just loaded a program, and any events of which none starts a program. The picture of each digit
stays at its place below `0x200`. A byte of it is that of the font, if no event wrote to its
address, and else what the last event that wrote to it put there. While its five bytes are those of
the font the digit is drawn by pointing to it and drawing five rows. -/
theorem digits_until_overwritten (hfresh : m.Fresh) (events : List (Event K))
    (hnone : ∀ e ∈ events, e.program? = none) (digit : Nibble) :
    let t := m.after events
    let picture := (t.memory.glyphAddress digit.toByte).toNat
    picture = min m.config.fontBase.toNat 0x1B0 + 5 * digit.val ∧
    (∀ i (hi : i < (Font.glyph digit).length),
      (m.Untouched (picture + i) events ∧ t.memory.byte (picture + i) = (Font.glyph digit)[i]) ∨
      ∃ es e fs, events = es ++ e :: fs ∧
        (m.after es).Writes e (picture + i) (t.memory.byte (picture + i)) ∧
        (m.after (es ++ [e])).Untouched (picture + i) fs) ∧
    ((∀ i (hi : i < (Font.glyph digit).length),
      t.memory.byte (picture + i) = (Font.glyph digit)[i]) → t.DrawsDigit digit) := by
  intro t picture
  have hfont := hfresh.holdsFont
  have hplace : t.memory.glyphAddress digit.toByte = m.memory.glyphAddress digit.toByte :=
    m.glyphAddress_after events hnone digit.toByte
  have hbase : t.memory.fontBase.toNat ≤ 0x1B0 := by
    rw [m.fontBase_after events hnone, hfont.toNat_fontBase]
    exact Nat.min_le_right _ _
  have hpicture : picture = (m.memory.glyphAddress digit.toByte).toNat :=
    congrArg UInt16.toNat hplace
  refine ⟨hpicture.trans (hfont.toNat_glyphAddress digit), fun i hi => ?_,
    drawsDigit_of_bytes hbase⟩
  rcases m.byte_after (picture + i) events hnone with ⟨huntouched, hbyte⟩ | hwritten
  · refine .inl ⟨huntouched, hbyte.trans ?_⟩
    rw [hpicture]
    exact hfont.byte_glyph hi
  · exact .inr hwritten

/-- A program that stores a zero over the first row of the digit `0` and then draws the digit `2`:
the zero is there, and the other picture has stayed. -/
theorem digits_until_overwritten_first_row :
    ∃ (m : Machine FrameBuffer Keypad) (events : List (Event Keypad)),
      m.Fresh ∧ (∀ e ∈ events, e.program? = none) ∧
      let t := m.after events
      (∃ es e fs, events = es ++ e :: fs ∧ (m.after es).Writes e 0 0 ∧
        (m.after (es ++ [e])).Untouched 0 fs) ∧
      t.nextInstruction? = some (.pointGlyph 0) ∧
      (t.after [.step, .tick, .step]).display =
        (drawSprite t.display 0 0 (Font.glyph 2)).display := by
  let new : Machine FrameBuffer Keypad :=
    create ⟨.vy, 0, some 8⟩ (Bitmap.blank 64 32) .released (Vector.replicate 8 0)
  let m := (new.perform (.load
    [0xA0, 0x00, 0xF0, 0x55, 0x60, 0x02, 0xF0, 0x29, 0xD1, 0x15])).machine
  let events : List (Event Keypad) := [.step, .step, .step]
  have hfresh : m.Fresh := .loaded new (by decide)
  have hnone : ∀ e ∈ events, e.program? = none := by simp [events, Event.program?]
  let t := m.after events
  have hrun : (t.memory.glyphAddress (0 : Nibble).toByte).toNat = 0 ∧ t.memory.byte 0 = 0 ∧
      (∀ i (hi : i < (Font.glyph 2).length),
        t.memory.byte ((t.memory.glyphAddress (2 : Nibble).toByte).toNat + i) =
          (Font.glyph 2)[i]) ∧
      t.nextInstruction? = some (.pointGlyph 0) ∧ t.registers.get 0 = (2 : Nibble).toByte ∧
      t.registers.get 1 = 0 ∧
      (t.step.machine.after [.tick]).nextInstruction? = some (.draw 1 1 5) := by decide +kernel
  obtain ⟨hplace, hzero, htwo, hnext, hdigit, hcorner, hdraw⟩ := hrun
  obtain ⟨-, hzeros, -⟩ := digits_until_overwritten hfresh events hnone 0
  obtain ⟨-, -, hdraws⟩ := digits_until_overwritten hfresh events hnone 2
  refine ⟨m, events, hfresh, hnone, ?_, hnext, ?_⟩
  · rcases hzeros 0 (by decide) with ⟨-, hkept⟩ | hwritten
    · rw [hplace, hzero] at hkept
      exact absurd hkept (by decide)
    · rw [hplace, hzero] at hwritten
      exact hwritten
  · have hdrawn := (hdraws htwo 0 1 1 [.tick] hnext hdigit (by simp [Event.isAmbient]) hdraw).2.2
    rw [hcorner] at hdrawn
    exact hdrawn

/-- A program can store a zero over the first row of the digit `0`. Pointing to the digit and
drawing five rows then leaves the upper left cell dark, which the picture of the font would light.
-/
theorem digit_lost_after_overwrite :
    ∃ m : Machine FrameBuffer Keypad, m.Reachable ∧ m.halted = false ∧
      m.memory.byte (m.memory.glyphAddress (0 : Nibble).toByte).toNat ≠ (Font.glyph 0)[0] ∧
      ¬ m.DrawsDigit 0 := by
  let m : Machine FrameBuffer Keypad :=
    (create ⟨.vy, 0, some 8⟩ (Bitmap.blank 64 32) .released (Vector.replicate 8 0)).after
      [.load [0xA0, 0x00, 0xF0, 0x55, 0xF0, 0x29, 0xD1, 0x15], .step, .step]
  have hrun : m.halted = false ∧
      m.memory.byte (m.memory.glyphAddress (0 : Nibble).toByte).toNat ≠ (Font.glyph 0)[0] ∧
      m.nextInstruction? = some (.pointGlyph 0) ∧ m.registers.get 0 = (0 : Nibble).toByte ∧
      (m.step.machine.after []).nextInstruction? = some (.draw 1 1 5) ∧
      (m.step.machine.after []).step.machine.display.pixel 0 0 = false ∧
      (drawSprite m.display (m.registers.get 1) (m.registers.get 1)
        (Font.glyph 0)).display.pixel 0 0 = true := by decide +kernel
  obtain ⟨hruns, hbyte, hnext, hdigit, hdraw, hdark, hlit⟩ := hrun
  refine ⟨m, ⟨_, _, _, _, _, rfl⟩, hruns, hbyte, fun hdraws => ?_⟩
  obtain ⟨-, -, hdisplay⟩ := hdraws 0 1 1 [] hnext hdigit nofun hdraw
  rw [hdisplay, hlit] at hdark
  cases hdark

end Machine

end Chip8
