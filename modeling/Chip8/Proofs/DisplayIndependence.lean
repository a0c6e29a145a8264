import Chip8.Proofs.Drawing
import Chip8.Proofs.Runs

/-!
# Independence of the display

A program sees of its display only what drawing a sprite tells: whether a lit cell was hit. So two
machines that differ in their displays only, and whose displays show the same cells, cannot be told
apart, whatever kinds of display they are. The relation is `Machine.Agrees`: the second machine is
the first one with another display, and the displays show the same cells (`SameCells`). Drawing
keeps it, since the cells after a draw and the collision are functions of the cells before
(`SameCells.drawSprite`); hence every instruction keeps it, every event, and every history.
-/

namespace Chip8

/-! ## Displays that show the same cells -/

/-- Two displays, perhaps of different kinds, of one size and with at least one cell. -/
structure SameSize {D₁ D₂ : Type} [Display D₁] [Display D₂] (d₁ : D₁) (d₂ : D₂) : Prop where
  width_pos : 0 < Display.width d₁
  height_pos : 0 < Display.height d₁
  width_eq : Display.width d₂ = Display.width d₁
  height_eq : Display.height d₂ = Display.height d₁

/-- Two displays of one size that show the same cells. -/
structure SameCells {D₁ D₂ : Type} [Display D₁] [Display D₂] (d₁ : D₁) (d₂ : D₂) : Prop
    extends SameSize d₁ d₂ where
  pixel_eq : ∀ x y, x < Display.width d₁ → y < Display.height d₁ →
    Display.pixel d₂ x y = Display.pixel d₁ x y

section

variable {D₁ D₂ : Type} [Display D₁] [Display D₂] {d₁ : D₁} {d₂ : D₂}

/-- Displays of one size show the same cells once they have been cleared. -/
theorem SameSize.clear [LawfulDisplay D₁] [LawfulDisplay D₂] (h : SameSize d₁ d₂) :
    SameCells (Display.clear d₁) (Display.clear d₂) where
  width_pos := by
    rw [LawfulDisplay.width_clear]
    exact h.width_pos
  height_pos := by
    rw [LawfulDisplay.height_clear]
    exact h.height_pos
  width_eq := by rw [LawfulDisplay.width_clear, LawfulDisplay.width_clear, h.width_eq]
  height_eq := by rw [LawfulDisplay.height_clear, LawfulDisplay.height_clear, h.height_eq]
  pixel_eq x y hx hy := by
    rw [LawfulDisplay.width_clear] at hx
    rw [LawfulDisplay.height_clear] at hy
    rw [LawfulDisplay.pixel_clear d₁ x y hx hy,
      LawfulDisplay.pixel_clear d₂ x y (h.width_eq ▸ hx) (h.height_eq ▸ hy)]

variable [LawfulToggle D₁] [LawfulToggle D₂]

/-- Drawing a sprite on the same cells changes the same cells, and hits a lit cell on both displays
or on neither. -/
theorem SameCells.drawSprite (h : SameCells d₁ d₂) (x y : UInt8) (sprite : List UInt8) :
    SameCells (drawSprite d₁ x y sprite).display (drawSprite d₂ x y sprite).display ∧
      (drawSprite d₂ x y sprite).collision = (drawSprite d₁ x y sprite).collision := by
  have hwidth : 0 < Display.width d₂ := h.width_eq ▸ h.width_pos
  have hheight : 0 < Display.height d₂ := h.height_eq ▸ h.height_pos
  have hflipped₁ := flipped_drawSprite h.width_pos h.height_pos x y sprite
  have hflipped₂ := flipped_drawSprite hwidth hheight x y sprite
  -- on displays of one size a sprite covers the same cells
  rw [h.width_eq, h.height_eq] at hflipped₂
  constructor
  · exact {
      width_pos := hflipped₁.width_eq ▸ h.width_pos
      height_pos := hflipped₁.height_eq ▸ h.height_pos
      width_eq := hflipped₂.width_eq.trans (h.width_eq.trans hflipped₁.width_eq.symm)
      height_eq := hflipped₂.height_eq.trans (h.height_eq.trans hflipped₁.height_eq.symm)
      pixel_eq := fun a b ha hb => by
        rw [hflipped₁.width_eq] at ha
        rw [hflipped₁.height_eq] at hb
        have hpixel₁ := hflipped₁.pixel_eq (a, b) ⟨ha, hb⟩
        have hpixel₂ := hflipped₂.pixel_eq (a, b) ⟨h.width_eq ▸ ha, h.height_eq ▸ hb⟩
        rw [hpixel₂, hpixel₁, h.pixel_eq a b ha hb] }
  · rw [Bool.eq_iff_iff, hflipped₁.collision_iff, hflipped₂.collision_iff]
    refine or_congr_right (exists_congr fun cell => and_congr_right fun hcell => ?_)
    obtain ⟨ha, hb⟩ := onDisplay_of_mem_spriteCells h.width_pos h.height_pos hcell
    rw [h.pixel_eq _ _ ha hb]

end

/-! ## Machines that differ in the display -/

namespace Machine

variable {D₁ D₂ K : Type}

/-- The machine with another display, perhaps of another kind. -/
def withDisplay (m : Machine D₁ K) (d : D₂) : Machine D₂ K := { m with display := d }

/-- The second machine is the first one with another display that shows the same cells. -/
structure Agrees [Display D₁] [Display D₂] (m₁ : Machine D₁ K) (m₂ : Machine D₂ K) : Prop where
  cells : SameCells m₁.display m₂.display
  eq_withDisplay : m₂ = m₁.withDisplay m₂.display

/-- To look at machines that agree is to look at one machine and at another display for it. -/
theorem Agrees.exists_withDisplay [Display D₁] [Display D₂] {m₁ : Machine D₁ K}
    {m₂ : Machine D₂ K} (h : m₁.Agrees m₂) :
    ∃ d : D₂, SameCells m₁.display d ∧ m₂ = m₁.withDisplay d :=
  ⟨m₂.display, h.cells, h.eq_withDisplay⟩

end Machine

/-- Two replies with the same result and the same messages, and with machines that agree. -/
structure Reply.Agrees {D₁ D₂ K α : Type} [Display D₁] [Display D₂] (r₁ : Reply D₁ K α)
    (r₂ : Reply D₂ K α) : Prop where
  machine : r₁.machine.Agrees r₂.machine
  result : r₁.result = r₂.result
  messages : r₁.messages = r₂.messages

/-- Replies that agree do so when both results are passed on. -/
theorem Reply.Agrees.map {D₁ D₂ K α β : Type} [Display D₁] [Display D₂] {r₁ : Reply D₁ K α}
    {r₂ : Reply D₂ K α} (h : r₁.Agrees r₂) (f : α → β) : (r₁.map f).Agrees (r₂.map f) :=
  ⟨h.machine, congrArg f h.result, h.messages⟩

namespace Machine

variable {D₁ D₂ K : Type} [Display D₁] [Display D₂] {m₁ : Machine D₁ K} {m₂ : Machine D₂ K}

/-- The same instruction on two machines: it fails on both with one fault, or has effects that
differ in the display only. -/
inductive SameEffect : Except Fault (Effect D₁ K) → Except Fault (Effect D₂ K) → Prop
  | failed (fault : Fault) : SameEffect (.error fault) (.error fault)
  | succeeded {m₁ : Machine D₁ K} {m₂ : Machine D₂ K} (h : m₁.Agrees m₂) (outcome : Outcome)
    (messages : List Message) :
    SameEffect (.ok ⟨m₁, outcome, messages⟩) (.ok ⟨m₂, outcome, messages⟩)

namespace SameEffect

/-- What corresponds to a success is a success. -/
theorem eq_ok {effect : Effect D₁ K} {r : Except Fault (Effect D₂ K)}
    (h : SameEffect (.ok effect) r) :
    ∃ m, effect.machine.Agrees m ∧ r = .ok ⟨m, effect.outcome, effect.messages⟩ := by
  cases h with
  | succeeded h outcome messages => exact ⟨_, h, rfl⟩

/-- What corresponds to a failure is a failure with the same fault. -/
theorem eq_error {fault : Fault} {r : Except Fault (Effect D₂ K)}
    (h : SameEffect (.error fault : Except Fault (Effect D₁ K)) r) : r = .error fault := by
  cases h
  rfl

/-- Instructions that are done with machines that agree. -/
theorem done (h : m₁.Agrees m₂) : SameEffect (done m₁) (done m₂) := .succeeded h _ _

/-- A skip looks at a condition and not at the display. -/
theorem skipIf (h : m₁.Agrees m₂) (condition : Bool) :
    SameEffect (Machine.done (m₁.skipIf condition)) (Machine.done (m₂.skipIf condition)) := by
  obtain ⟨d, hcells, rfl⟩ := h.exists_withDisplay
  rw [skipIf_eq, skipIf_eq]
  exact .done ⟨hcells, rfl⟩

/-- A store looks at memory and not at the display. -/
theorem store (h : m₁.Agrees m₂) (bytes : List UInt8) :
    SameEffect (m₁.store bytes) (m₂.store bytes) := by
  obtain ⟨d, hcells, rfl⟩ := h.exists_withDisplay
  have hwrite : (m₁.withDisplay d).memory.write (m₁.withDisplay d).index.toNat bytes =
      m₁.memory.write m₁.index.toNat bytes := rfl
  rw [Machine.store, Machine.store, hwrite]
  cases m₁.memory.write m₁.index.toNat bytes with
  | error fault => exact .failed fault
  | ok memory => exact .done ⟨hcells, rfl⟩

end SameEffect

/-! ## Every instruction and every event -/

variable [LawfulDisplay D₁] [LawfulDisplay D₂] [KeySource K]

/-- An instruction has the same effect on machines that agree. -/
theorem Agrees.execute (h : m₁.Agrees m₂) (i : Instruction) :
    SameEffect (m₁.execute i) (m₂.execute i) := by
  obtain ⟨d, hcells, rfl⟩ := h.exists_withDisplay
  cases i
  -- first the two instructions that have to do with the display
  case clearScreen => exact .done ⟨hcells.clear, rfl⟩
  case draw x y n =>
    have hread : (m₁.withDisplay d).memory.read (m₁.withDisplay d).index.toNat n.val =
        m₁.memory.read m₁.index.toNat n.val := rfl
    rw [Machine.execute, Machine.execute, hread]
    cases m₁.memory.read m₁.index.toNat n.val with
    | error fault => exact .failed fault
    | ok sprite =>
      obtain ⟨hdrawn, hcollision⟩ :=
        hcells.drawSprite (m₁.registers.get x) (m₁.registers.get y) sprite
      refine .done ⟨hdrawn, ?_⟩
      dsimp only [withDisplay]
      rw [hcollision]
  case ret =>
    have hpop : (m₁.withDisplay d).stack.pop? = m₁.stack.pop? := rfl
    rw [Machine.execute, Machine.execute, hpop]
    rcases m₁.stack.pop? with _ | ⟨pc, stack⟩
    · exact .failed _
    · exact .done ⟨hcells, rfl⟩
  case call target =>
    have hpush : (m₁.withDisplay d).stack.push? (m₁.withDisplay d).pc =
        m₁.stack.push? m₁.pc := rfl
    rw [Machine.execute, Machine.execute, hpush]
    rcases m₁.stack.push? m₁.pc with _ | stack
    · exact .failed _
    · exact .done ⟨hcells, rfl⟩
  case awaitKey x =>
    have hkey : KeySource.lowestHeld? (m₁.withDisplay d).keypad =
        KeySource.lowestHeld? m₁.keypad := rfl
    rw [Machine.execute, Machine.execute, hkey]
    rcases KeySource.lowestHeld? m₁.keypad with _ | key
    · exact .succeeded ⟨hcells, rfl⟩ _ _
    · exact .done ⟨hcells, rfl⟩
  case loadRegisters x =>
    have hread : (m₁.withDisplay d).memory.read (m₁.withDisplay d).index.toNat (x.val + 1) =
        m₁.memory.read m₁.index.toNat (x.val + 1) := rfl
    rw [Machine.execute, Machine.execute, hread]
    cases m₁.memory.read m₁.index.toNat (x.val + 1) with
    | error fault => exact .failed fault
    | ok bytes => exact .done ⟨hcells, rfl⟩
  case storeDecimal | storeRegisters => exact .store h _
  case skipIfConstant | skipUnlessConstant | skipIfEqual | skipUnlessEqual | skipIfHeld |
      skipUnlessHeld => exact .skipIf h _
  case unmapped word => exact .succeeded h _ _
  all_goals exact .done ⟨hcells, rfl⟩

omit [LawfulDisplay D₁] [LawfulDisplay D₂] [KeySource K] in
/-- Machines that agree do so after they have fetched a word. -/
theorem Agrees.afterFetch (h : m₁.Agrees m₂) (word : Opcode) :
    (m₁.afterFetch word).Agrees (m₂.afterFetch word) := by
  obtain ⟨d, hcells, rfl⟩ := h.exists_withDisplay
  exact ⟨hcells, rfl⟩

/-- Machines that agree take the same step. -/
theorem Agrees.step (h : m₁.Agrees m₂) : m₁.step.Agrees m₂.step := by
  obtain ⟨d, hcells, rfl⟩ := h.exists_withDisplay
  -- the second machine is in the same one of the four cases as the first
  rcases m₁.step_cases with ⟨hhalted, hstep⟩ | ⟨hruns, hnone, hstep⟩ | ⟨word, effect, hruns, hfetch,
    hexecute, hstep⟩ | ⟨word, fault, hruns, hfetch, hexecute, hstep⟩
  · have hstep₂ : (m₁.withDisplay d).step = _ := step_of_halted hhalted
    rw [hstep, hstep₂]
    exact ⟨h, rfl, rfl⟩
  · have hstep₂ : (m₁.withDisplay d).step = _ := step_of_fetch_eq_none hruns hnone
    rw [hstep, hstep₂]
    exact ⟨⟨hcells, rfl⟩, rfl, rfl⟩
  · have hsame := (h.afterFetch word).execute (.decode word)
    rw [hexecute] at hsame
    obtain ⟨m, hagrees, hexecute₂⟩ := hsame.eq_ok
    have hstep₂ : (m₁.withDisplay d).step = _ := step_of_execute_eq_ok hruns hfetch hexecute₂
    rw [hstep, hstep₂]
    exact ⟨hagrees, rfl, rfl⟩
  · have hsame := (h.afterFetch word).execute (.decode word)
    rw [hexecute] at hsame
    have hstep₂ : (m₁.withDisplay d).step = _ :=
      step_of_execute_eq_error hruns hfetch hsame.eq_error
    rw [hstep, hstep₂]
    exact ⟨⟨hcells, rfl⟩, rfl, rfl⟩

omit [KeySource K] in
/-- Machines that start over with one memory agree if they have their configuration, keypad,
generator and the size of their displays in common. -/
theorem agrees_restart (hconfig : m₁.config = m₂.config) (hkeypad : m₁.keypad = m₂.keypad)
    (hgenerator : m₁.generator = m₂.generator) (hsize : SameSize m₁.display m₂.display)
    (memory : Memory) : (m₁.restart memory).Agrees (m₂.restart memory) := by
  refine ⟨hsize.clear, ?_⟩
  rw [restart, restart, withDisplay, hconfig, hkeypad, hgenerator]

omit [KeySource K] in
/-- Loading has the same outcome on machines that agree. -/
theorem Agrees.load (h : m₁.Agrees m₂) (program : List UInt8) :
    (m₁.load program).Agrees (m₂.load program) := by
  obtain ⟨d, hcells, rfl⟩ := h.exists_withDisplay
  have hconfig : (m₁.withDisplay d).config = m₁.config := rfl
  rw [load_eq, load_eq, hconfig]
  cases (Memory.create m₁.config.fontBase).load program with
  | error fault => exact ⟨h, rfl, rfl⟩
  | ok memory => exact ⟨⟨hcells.clear, rfl⟩, rfl, rfl⟩

/-- Every event has the same outcome on machines that agree. -/
theorem Agrees.perform (h : m₁.Agrees m₂) (e : Event K) :
    (m₁.perform e).Agrees (m₂.perform e) := by
  cases e with
  | load program => exact (h.load program).map Answer.loaded
  | loadFile path contents =>
    cases contents with
    | none => exact ⟨h, rfl, rfl⟩
    | some program => exact (h.load program).map Answer.loaded
  | step => exact h.step.map Answer.stepped
  | tick | changeKeys =>
    obtain ⟨d, hcells, rfl⟩ := h.exists_withDisplay
    exact ⟨⟨hcells, rfl⟩, rfl, rfl⟩

/-- Machines that agree do so after every history. -/
theorem Agrees.after (h : m₁.Agrees m₂) (events : List (Event K)) :
    (m₁.after events).Agrees (m₂.after events) := by
  induction events generalizing m₁ m₂ with
  | nil => exact h
  | cons e events ih => exact ih (h.perform e).machine

/-! ## Two emulations on two displays -/

omit [LawfulDisplay D₁] [LawfulDisplay D₂] [KeySource K] in
/-- New machines on displays that show the same cells agree if they take their random bytes from one
place: a common seed, or else a common key. -/
theorem agrees_create {d₁ : D₁} {d₂ : D₂} (hcells : SameCells d₁ d₂) (config : Config) (keypad : K)
    {entropy₁ entropy₂ : KeyStream.Key} (hentropy : config.seed = none → entropy₁ = entropy₂) :
    (create config d₁ keypad entropy₁).Agrees (create config d₂ keypad entropy₂) := by
  refine ⟨hcells, ?_⟩
  rw [create, create, withDisplay]
  cases hseed : config.seed with
  | none => rw [hentropy hseed]
  | some seed => rfl

/-- **Independence of the display.** Two machines are made with one configuration and one keypad,
and take their random bytes from one place; their displays, which may be of different kinds, show
the same cells. After any events that the host performs on both, the two show the same registers,
the same memory and the same cells, and have everything else in common too; and whatever event comes
next has the same result and the same messages on both. -/
theorem display_independence {d₁ : D₁} {d₂ : D₂} (hcells : SameCells d₁ d₂) (config : Config)
    (keypad : K) (entropy₁ entropy₂ : KeyStream.Key)
    (hentropy : config.seed = none → entropy₁ = entropy₂) (events : List (Event K)) :
    let m₁ := (create config d₁ keypad entropy₁).after events
    let m₂ := (create config d₂ keypad entropy₂).after events
    m₁.snapshot = m₂.snapshot ∧ m₁.memory = m₂.memory ∧ SameCells m₁.display m₂.display ∧
      m₂ = m₁.withDisplay m₂.display ∧
      ∀ e, (m₁.perform e).result = (m₂.perform e).result ∧
        (m₁.perform e).messages = (m₂.perform e).messages := by
  intro m₁ m₂
  have hagrees : m₁.Agrees m₂ := (agrees_create hcells config keypad hentropy).after events
  refine ⟨?_, ?_, hagrees.cells, hagrees.eq_withDisplay, fun e => ?_⟩
  · rw [hagrees.eq_withDisplay]
    rfl
  · rw [hagrees.eq_withDisplay]
    rfl
  · exact ⟨(hagrees.perform e).result, (hagrees.perform e).messages⟩

end Machine

/-! ## Another kind of display -/

/-- A display that keeps its cells as a function of the coordinates. -/
structure Plane (width height : Nat) where
  /-- Whether the cell in a column and a row is lit. -/
  lit : Nat → Nat → Bool

instance {w h : Nat} : Display (Plane w h) where
  width _ := w
  height _ := h
  clear _ := ⟨fun _ _ => false⟩
  pixel := Plane.lit
  toggle p x y := ⟨fun x' y' => if x = x' ∧ y = y' then !p.lit x y else p.lit x' y'⟩

instance {w h : Nat} : LawfulDisplay (Plane w h) where
  width_clear _ := rfl
  height_clear _ := rfl
  width_toggle _ _ _ _ _ := rfl
  height_toggle _ _ _ _ _ := rfl
  pixel_clear _ _ _ _ _ := rfl
  pixel_toggle _ _ _ _ _ _ _ _ _ := rfl

namespace Machine

/-- The picture of a digit, drawn twice at one place: on a bitmap and on a plane the second draw
hits lit cells, and leaves every cell dark. -/
theorem display_independence_plane :
    ∃ (m₁ : Machine FrameBuffer Keypad) (m₂ : Machine (Plane 64 32) Keypad),
      m₁.Reachable ∧ m₂.Reachable ∧ m₁.registers.get 0xF = 1 ∧ m₁.snapshot = m₂.snapshot ∧
      Display.pixel m₁.display 3 4 = false ∧ Display.pixel m₂.display 3 4 = false := by
  let config : Config := ⟨.vy, 0, some 8⟩
  let events : List (Event Keypad) := [.load [0xD0, 0x05, 0xD0, 0x05], .step, .tick, .step]
  let blank : FrameBuffer := Bitmap.blank 64 32
  let dark : Plane 64 32 := ⟨fun _ _ => false⟩
  let key : KeyStream.Key := Vector.replicate 8 0
  have hcells : SameCells blank dark :=
    ⟨⟨by decide, by decide, rfl, rfl⟩, fun x y _ _ => (Bitmap.pixel_blank x y).symm⟩
  obtain ⟨hsnapshot, -, hafter, -, -⟩ := display_independence hcells config Keypad.released
    key (Vector.replicate 8 1) nofun events
  have hdrawn : ((create config blank Keypad.released key).after events).registers.get 0xF = 1 ∧
      Display.pixel ((create config blank Keypad.released key).after events).display 3 4 =
        false := by
    decide +kernel
  have hpixel := hafter.pixel_eq 3 4 (by decide) (by decide)
  exact ⟨_, _, ⟨_, _, _, _, _, rfl⟩, ⟨_, _, _, _, _, rfl⟩, hdrawn.1, hsnapshot, hdrawn.2,
    hpixel.trans hdrawn.2⟩

end Machine

end Chip8
