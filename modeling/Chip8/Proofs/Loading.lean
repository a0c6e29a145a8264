import Chip8.Proofs.DisplayIndependence

/-!
# Loading erases the past

A program that fits is loaded into a machine that keeps three things: its configuration, its keypad
and its generator. Everything else is as on a new machine (`Machine.Started`), whatever the machine
did before. So two machines that have these three things in common, and displays of one size, agree
after each has loaded the same program, and forever after; nothing of an earlier program shows.
-/

namespace Chip8.Machine

/-- A machine that is about to run a program and knows of nothing else: memory holds the program,
the font below it, and zeros, the program counter stands at the start of the program, and every
other part is zero, empty or dark. -/
structure Started {D K : Type} [Display D] (m : Machine D K) (program : List UInt8) : Prop where
  /-- The program lies from `0x200` on. -/
  program_byte : ∀ i (h : i < program.length), m.memory.byte (0x200 + i) = program[i]
  /-- The font lies where it was requested, or as high below programs as it can. -/
  fontBase_eq : m.memory.fontBase.toNat = min m.config.fontBase.toNat 0x1B0
  font_byte : ∀ i (h : i < Font.bytes.length),
    m.memory.byte (m.memory.fontBase.toNat + i) = Font.bytes[i]
  /-- The font and the program do not overlap. -/
  font_end_le : m.memory.fontBase.toNat + Font.bytes.length ≤ 0x200
  zero_byte : ∀ a, ¬ (0x200 ≤ a ∧ a < 0x200 + program.length) →
    ¬ (m.memory.fontBase.toNat ≤ a ∧ a < m.memory.fontBase.toNat + Font.bytes.length) →
    m.memory.byte a = 0
  register_eq : ∀ x, m.registers.get x = 0
  pc_eq : m.pc = 0x200
  index_eq : m.index = 0
  stack_eq : m.stack.addresses = []
  delay_eq : m.timers.delay.count = 0
  sound_eq : m.timers.sound.count = 0
  opcode_eq : m.opcode = 0
  halted_eq : m.halted = false
  pixel_eq : ∀ x y, x < Display.width m.display → y < Display.height m.display →
    Display.pixel m.display x y = false

variable {D K : Type} [Display D] [LawfulDisplay D]

/-- A machine that starts over with the memory of a program is about to run it. -/
theorem started_restart {m : Machine D K} {program : List UInt8} {memory : Memory}
    (hload : (Memory.create m.config.fontBase).load program = .ok memory) :
    (m.restart memory).Started program := by
  have hlength : Font.bytes.length = 80 := rfl
  have hplace : memory.fontBase = Memory.fontBaseFor m.config.fontBase := Memory.fontBase_load hload
  have hfont : memory.HoldsFont m.config.fontBase := (Memory.HoldsFont.create _).load hload
  have hbase := hfont.toNat_fontBase
  exact {
    program_byte := fun i hi => by
      show memory.byte (0x200 + i) = program[i]
      rw [Memory.byte_load hload, dif_pos (by omega)]
      simp only [Nat.add_sub_cancel_left]
    fontBase_eq := hfont.toNat_fontBase
    font_byte := hfont.font_byte
    font_end_le := by
      show memory.fontBase.toNat + Font.bytes.length ≤ 0x200
      omega
    zero_byte := fun a hprogram hfont => by
      change ¬ (memory.fontBase.toNat ≤ a ∧ a < memory.fontBase.toNat + Font.bytes.length) at hfont
      rw [hplace] at hfont
      show memory.byte a = 0
      rw [Memory.byte_load hload, dif_neg hprogram, Memory.byte_create, dif_neg hfont]
    register_eq := Registers.get_zero
    pc_eq := rfl
    index_eq := rfl
    stack_eq := rfl
    delay_eq := rfl
    sound_eq := rfl
    opcode_eq := rfl
    halted_eq := rfl
    pixel_eq := fun x y hx hy => by
      change x < Display.width (Display.clear m.display) at hx
      change y < Display.height (Display.clear m.display) at hy
      rw [LawfulDisplay.width_clear] at hx
      rw [LawfulDisplay.height_clear] at hy
      exact LawfulDisplay.pixel_clear m.display x y hx hy }

/-- **Loading erases the past, or does nothing.** A program that is too large is refused and the
machine stays as it was. A program that fits is loaded into every machine, which is then about to
run it, and keeps its configuration, its keypad, its generator and the size of its display. So two
machines that have these in common agree after they have loaded the program and any events have
followed, and what comes next has the same outcome on both. -/
theorem load_erases_history [KeySource K] (program : List UInt8) :
    (3584 < program.length → ∀ m : Machine D K,
      (m.load program).result = .error (.programTooLarge program.length 3584) ∧
      (m.load program).machine = m) ∧
    (program.length ≤ 3584 → ∀ m : Machine D K,
      let s := (m.load program).machine
      (m.load program).result = .ok () ∧ s.Started program ∧
      s.config = m.config ∧ s.keypad = m.keypad ∧ s.generator = m.generator ∧
      Display.width s.display = Display.width m.display ∧
      Display.height s.display = Display.height m.display) ∧
    (program.length ≤ 3584 → ∀ m₁ m₂ : Machine D K, m₁.config = m₂.config →
      m₁.keypad = m₂.keypad → m₁.generator = m₂.generator → SameSize m₁.display m₂.display →
      ∀ events : List (Event K),
        let s₁ := (m₁.load program).machine.after events
        let s₂ := (m₂.load program).machine.after events
        s₁.Agrees s₂ ∧ ∀ e, (s₁.perform e).Agrees (s₂.perform e)) := by
  refine ⟨fun hlarge m => m.load_of_length_lt hlarge, fun hfits m => ?_,
    fun hfits m₁ m₂ hconfig hkeypad hgenerator hsize events => ?_⟩
  · obtain ⟨memory, hload, hresult, hmachine⟩ := m.load_of_length_le hfits
    rw [hmachine]
    exact ⟨hresult, started_restart hload, rfl, rfl, rfl,
      LawfulDisplay.width_clear m.display, LawfulDisplay.height_clear m.display⟩
  · obtain ⟨memory₁, hload₁, -, hmachine₁⟩ := m₁.load_of_length_le hfits
    obtain ⟨memory₂, hload₂, -, hmachine₂⟩ := m₂.load_of_length_le hfits
    have hmemory : memory₁ = memory₂ := by
      rw [hconfig, hload₂] at hload₁
      exact (Except.ok.inj hload₁).symm
    intro s₁ s₂
    have hagrees : s₁.Agrees s₂ := by
      apply Agrees.after
      rw [hmachine₁, hmachine₂, hmemory]
      exact agrees_restart hconfig hkeypad hgenerator hsize memory₂
    exact ⟨hagrees, hagrees.perform⟩

/-- A machine whose program wrote over memory and failed, and a new machine: neither can be told
from the other after a load. -/
theorem load_erases_history_after_fault :
    ∃ m₁ m₂ : Machine FrameBuffer Keypad, m₁.Reachable ∧ m₂.Reachable ∧
      m₁.halted = true ∧ m₁.memory.byte 0 = 1 ∧ Display.pixel m₁.display 7 0 = true ∧
      (m₁.load [0x60, 0x07]).machine.Started [0x60, 0x07] ∧
      ((m₁.load [0x60, 0x07]).machine.after [.step]).Agrees
        ((m₂.load [0x60, 0x07]).machine.after [.step]) ∧
      (m₁.load (List.replicate 3585 0)).machine = m₁ := by
  let m₂ : Machine FrameBuffer Keypad :=
    create ⟨.vy, 0, some 8⟩ (Bitmap.blank 64 32) .released (Vector.replicate 8 0)
  let m₁ := m₂.after
    [.load [0x60, 0x7B, 0xF0, 0x33, 0xD1, 0x11, 0x00, 0xEE], .step, .step, .step, .step]
  have hbefore : m₁.halted = true ∧ m₁.memory.byte 0 = 1 ∧ Display.pixel m₁.display 7 0 = true ∧
      m₁.config = m₂.config ∧ m₁.keypad = m₂.keypad ∧ m₁.generator = m₂.generator := by
    decide +kernel
  obtain ⟨hhalted, hbyte, hpixel, hconfig, hkeypad, hgenerator⟩ := hbefore
  obtain ⟨-, hstarted, hagrees⟩ :=
    load_erases_history (D := FrameBuffer) (K := Keypad) [0x60, 0x07]
  obtain ⟨hrefused, -, -⟩ :=
    load_erases_history (D := FrameBuffer) (K := Keypad) (List.replicate 3585 0)
  exact ⟨m₁, m₂, ⟨_, _, _, _, _, rfl⟩, reachable_create _ _ _ _, hhalted, hbyte, hpixel,
    (hstarted (by decide) m₁).2.1,
    (hagrees (by decide) m₁ m₂ hconfig hkeypad hgenerator
      ⟨by decide, by decide, rfl, rfl⟩ [.step]).1,
    (hrefused (by rw [List.length_replicate]; decide) m₁).2⟩

end Chip8.Machine
