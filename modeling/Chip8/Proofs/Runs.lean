import Chip8.Proofs.Execution

/-!
# Histories, event by event

An event either starts a program (`Event.program?`) or leaves the machine running on. In the second
case it is a step, a tick, a change of the keypad, or a load that fails and changes nothing
(`perform_of_program?_eq_none`). A machine is `Fresh` when it is new or has just started a program.
`Reachable.induction` is the induction over histories, and `executed` lists the instructions that a
history executes.
-/

namespace Chip8

/-- The program that an event starts: one that the host could read and that fits into memory. -/
def Event.program? {K : Type} : Event K → Option (List UInt8)
  | .load program | .loadFile _ (some program) =>
    if program.length ≤ Memory.maxProgramSize then some program else none
  | _ => none

/-- Whether a message is about a program that is loaded: where the font goes, and what was loaded.
-/
def Message.isOfLoad : Message → Bool
  | fontMoved .. | loaded _ => true
  | _ => false

namespace Machine

variable {D K : Type} [Display D] [KeySource K] {m : Machine D K}

/-! ## Loading -/

omit [KeySource K] in
/-- Loading a program that fits starts the machine over, with the program in a new memory. -/
theorem load_of_length_le (m : Machine D K) {program : List UInt8}
    (h : program.length ≤ Memory.maxProgramSize) :
    ∃ memory, (Memory.create m.config.fontBase).load program = .ok memory ∧
      (m.load program).result = .ok () ∧ (m.load program).machine = m.restart memory := by
  have hload := (Memory.create m.config.fontBase).load_of_le h
  refine ⟨_, hload, ?_⟩
  rw [load_eq, hload]
  exact ⟨rfl, rfl⟩

omit [KeySource K] in
/-- Loading a program that does not fit leaves the machine as it was. -/
theorem load_of_length_lt (m : Machine D K) {program : List UInt8}
    (h : Memory.maxProgramSize < program.length) :
    (m.load program).result = .error (.programTooLarge program.length Memory.maxProgramSize) ∧
      (m.load program).machine = m := by
  rw [load_eq, (Memory.create m.config.fontBase).load_of_lt h]
  exact ⟨rfl, rfl⟩

omit [KeySource K] in
/-- Loading reports on the load, whether it succeeds or fails. -/
theorem isOfLoad_of_mem_load {program : List UInt8} {message : Message}
    (hmem : message ∈ (m.load program).messages) : message.isOfLoad = true := by
  have hnotes : ∀ message ∈ Memory.fontMessages m.config.fontBase, message.isOfLoad = true := by
    unfold Memory.fontMessages
    split <;> simp [Message.isOfLoad]
  rw [load_eq] at hmem
  split at hmem
  · rcases List.mem_append.1 hmem with hnote | hloaded
    · exact hnotes message hnote
    · rw [List.mem_singleton.1 hloaded]
      rfl
  · exact hnotes message hmem

/-- An event that is no step has nothing but loads to report on. -/
theorem isOfLoad_of_ne_step {e : Event K} (h : e ≠ .step) {message : Message}
    (hmem : message ∈ (m.perform e).messages) : message.isOfLoad = true := by
  cases e with
  | step => exact absurd rfl h
  | load program => exact isOfLoad_of_mem_load hmem
  | loadFile path contents =>
    cases contents with
    | none => cases hmem
    | some program => exact isOfLoad_of_mem_load (m := m) hmem
  | tick | changeKeys => cases hmem

/-- An event that starts a program makes a machine that holds it and knows nothing of the time
before. -/
theorem perform_of_program? {e : Event K} {program : List UInt8}
    (h : e.program? = some program) (m : Machine D K) :
    ∃ memory, (Memory.create m.config.fontBase).load program = .ok memory ∧
      (m.perform e).machine = m.restart memory := by
  -- loading bytes and loading a file check the same bound
  have hfits (p : List UInt8)
      (hp : (if p.length ≤ Memory.maxProgramSize then some p else none) = some program) :
      p = program ∧ program.length ≤ Memory.maxProgramSize := by
    split at hp
    · rename_i hle
      cases hp
      exact ⟨rfl, hle⟩
    · cases hp
  match e, h with
  | .load p, h =>
    obtain ⟨rfl, hle⟩ := hfits p h
    obtain ⟨memory, hmemory, -, hmachine⟩ := m.load_of_length_le hle
    exact ⟨memory, hmemory, hmachine⟩
  | .loadFile _ (some p), h =>
    obtain ⟨rfl, hle⟩ := hfits p h
    obtain ⟨memory, hmemory, -, hmachine⟩ := m.load_of_length_le hle
    exact ⟨memory, hmemory, hmachine⟩

/-- An event that starts no program is a step, a tick, a change of the keypad, or changes nothing.
-/
theorem perform_of_program?_eq_none {e : Event K} (h : e.program? = none) (m : Machine D K) :
    e = .step ∨ e = .tick ∨ (∃ change, e = .changeKeys change) ∨
      (e ≠ .step ∧ (m.perform e).machine = m) := by
  have hlarge (p : List UInt8)
      (hp : (if p.length ≤ Memory.maxProgramSize then some p else none) = none) :
      Memory.maxProgramSize < p.length := by
    split at hp
    · cases hp
    · omega
  match e, h with
  | .step, _ => exact .inl rfl
  | .tick, _ => exact .inr (.inl rfl)
  | .changeKeys change, _ => exact .inr (.inr (.inl ⟨change, rfl⟩))
  | .load p, h =>
    exact .inr (.inr (.inr ⟨nofun, (m.load_of_length_lt (hlarge p h)).2⟩))
  | .loadFile _ (some p), h =>
    exact .inr (.inr (.inr ⟨nofun, (m.load_of_length_lt (hlarge p h)).2⟩))
  | .loadFile _ none, _ => exact .inr (.inr (.inr ⟨nofun, rfl⟩))

/-- A machine whose program has not run yet: a new one, or one that has just loaded a program. -/
inductive Fresh : Machine D K → Prop
  | created (config : Config) (display : D) (keypad : K) (entropy : KeyStream.Key) :
    Fresh (create config display keypad entropy)
  | loaded (m : Machine D K) {e : Event K} (hprogram : e.program?.isSome = true) :
    Fresh (m.perform e).machine

/-! ## Induction over histories -/

/-- What events preserve, histories preserve. -/
theorem after_induction {P : Machine D K → Prop}
    (hperform : ∀ (m : Machine D K) (e : Event K), P m → P (m.perform e).machine)
    (events : List (Event K)) (hm : P m) : P (m.after events) := by
  induction events generalizing m with
  | nil => exact hm
  | cons e events ih => exact ih (hperform m e hm)

/-- What holds of new machines and is preserved by events holds of reachable machines. -/
theorem Reachable.induction {P : Machine D K → Prop}
    (hcreate : ∀ (config : Config) (display : D) (keypad : K) (entropy : KeyStream.Key),
      P (create config display keypad entropy))
    (hperform : ∀ (m : Machine D K) (e : Event K), P m → P (m.perform e).machine)
    (h : m.Reachable) : P m := by
  obtain ⟨config, display, keypad, entropy, events, rfl⟩ := h
  exact after_induction hperform events (hcreate config display keypad entropy)

/-! ## The instructions of a history -/

/-- The instruction that an event executes with success, if it is a step and executes one. -/
def executed? (m : Machine D K) : Event K → Option Instruction
  | .step =>
    match m.step.result with
    | .ok _ => m.nextInstruction?
    | .error _ => none
  | _ => none

/-- A step that executes an instruction with success. -/
theorem executed?_step {word : Opcode} {effect : Effect D K} (hruns : m.halted = false)
    (hfetch : m.memory.fetch? m.pc = some word)
    (hstep : m.step = ⟨effect.machine, .ok effect.outcome, .fetched m.pc word :: effect.messages⟩) :
    m.executed? .step = some (.decode word) := by
  rw [executed?, hstep]
  exact nextInstruction?_of_fetch hruns hfetch

/-- What a step executes with success is the next instruction. -/
theorem nextInstruction?_of_executed? {i : Instruction} (h : m.executed? .step = some i) :
    m.nextInstruction? = some i := by
  rw [executed?] at h
  split at h
  · exact h
  · cases h

/-- An event that is no step executes nothing. -/
theorem executed?_of_ne_step {e : Event K} (h : e ≠ .step) : m.executed? e = none := by
  cases e
  case step => exact absurd rfl h
  all_goals rfl

/-- A step executes an instruction with success, or it executes nothing and changes at most the
program counter, the word executed last and whether the machine is halted. -/
theorem executed?_step_cases (m : Machine D K) :
    (∃ word effect, m.executed? .step = some (.decode word) ∧
      (m.afterFetch word).execute (.decode word) = .ok effect ∧ m.step.machine = effect.machine) ∨
    (m.executed? .step = none ∧
      ∃ pc opcode halted, m.step.machine = { m with pc, opcode, halted }) := by
  rcases m.step_cases with ⟨hhalted, hstep⟩ | ⟨-, hnone, hstep⟩ | ⟨word, effect, hruns, hfetch,
    hexecute, hstep⟩ | ⟨word, fault, -, -, -, hstep⟩
  · have hexecuted : m.executed? .step = none := by
      rw [executed?, hstep]
      simp only [nextInstruction?, hhalted, if_true]
    exact .inr ⟨hexecuted, m.pc, m.opcode, m.halted, by rw [hstep]⟩
  · have hexecuted : m.executed? .step = none := by
      rw [executed?, hstep]
      simp only [nextInstruction?, hnone, Option.map_none, ite_self]
    exact .inr ⟨hexecuted, m.pc, m.opcode, true, by rw [hstep]⟩
  · exact .inl ⟨word, effect, executed?_step hruns hfetch hstep, hexecute, by rw [hstep]⟩
  · have hexecuted : m.executed? .step = none := by rw [executed?, hstep]
    exact .inr ⟨hexecuted, m.pc.next, word, true, by rw [hstep]; rfl⟩

/-- An event that starts no program is a step that executes an instruction with success, or it
executes nothing and changes at most the keypad, the timers, the program counter, the word executed
last and whether the machine is halted. -/
theorem executed?_cases {e : Event K} (hprogram : e.program? = none) (m : Machine D K) :
    (∃ word effect, e = .step ∧ m.executed? e = some (.decode word) ∧
      (m.afterFetch word).execute (.decode word) = .ok effect ∧
      (m.perform e).machine = effect.machine) ∨
    (m.executed? e = none ∧ ∃ keypad timers pc opcode halted,
      (m.perform e).machine = { m with keypad, timers, pc, opcode, halted }) := by
  rcases perform_of_program?_eq_none hprogram m with rfl | rfl | ⟨change, rfl⟩ | ⟨hne, hsame⟩
  · rcases m.executed?_step_cases with ⟨word, effect, hexecuted, hexecute, hmachine⟩ |
      ⟨hexecuted, pc, opcode, halted, hmachine⟩
    · exact .inl ⟨word, effect, rfl, hexecuted, hexecute, hmachine⟩
    · exact .inr ⟨hexecuted, m.keypad, m.timers, pc, opcode, halted, hmachine⟩
  · exact .inr ⟨rfl, m.keypad, m.timers.tick, m.pc, m.opcode, m.halted, rfl⟩
  · exact .inr ⟨rfl, change m.keypad, m.timers, m.pc, m.opcode, m.halted, rfl⟩
  · exact .inr ⟨executed?_of_ne_step hne, m.keypad, m.timers, m.pc, m.opcode, m.halted, hsame⟩

/-- An event that starts a program executes nothing. -/
theorem executed?_of_program? {e : Event K} (hprogram : e.program?.isSome = true) :
    m.executed? e = none := by
  apply executed?_of_ne_step
  rintro rfl
  cases hprogram

/-- The instructions that a history executes with success, in order. -/
def executed (m : Machine D K) : List (Event K) → List Instruction
  | [] => []
  | e :: events => (m.executed? e).toList ++ (m.perform e).machine.executed events

end Machine

end Chip8
