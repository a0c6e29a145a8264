import Chip8.Display.Bitmap
import Chip8.Proofs.Execution

/-!
# What each instruction leaves alone

An instruction names what it may change: some registers (`Instruction.targets`), some bytes of
memory from the index register on (`Instruction.storedBytes`), and few of the other parts of the
machine. `Machine.Framed` states that all else stays as it was, and every instruction that succeeds
keeps to it (`framed_execute`). Whole families of instructions set registers only, or move the
program counter only; each such family is one lemma.
-/

namespace Chip8

/-! ## The table of what may change -/

namespace Instruction

/-- The registers that an instruction may change. -/
def targets : Instruction → List Nibble
  | setConstant x _ | addConstant x _ | copy x _ | or x _ | and x _ | xor x _ => [x]
  | add x _ | subtract x _ | subtractFrom x _ | shiftRight x _ | shiftLeft x _ =>
    [x, Registers.flag]
  | random x _ | getDelay x | awaitKey x => [x]
  | draw _ _ _ => [Registers.flag]
  | loadRegisters x => (List.finRange 16).filter (· ≤ x)
  | _ => []

/-- The number of bytes that an instruction may change, from the one at the index register on. -/
def storedBytes : Instruction → Nat
  | storeDecimal _ => 3
  | storeRegisters x => x.val + 1
  | _ => 0

/-- Whether an instruction may change the display. -/
def redraws : Instruction → Bool
  | clearScreen | draw _ _ _ => true
  | _ => false

/-- Whether an instruction may change the index register. -/
def movesIndex : Instruction → Bool
  | setIndex _ | addIndex _ | pointGlyph _ => true
  | _ => false

/-- Whether an instruction sets the delay timer. -/
def setsDelay : Instruction → Bool
  | setDelay _ => true
  | _ => false

/-- Whether an instruction sets the sound timer. -/
def setsSound : Instruction → Bool
  | setSound _ => true
  | _ => false

/-- Whether an instruction takes a random byte. -/
def isRandom : Instruction → Bool
  | random _ _ => true
  | _ => false

end Instruction

namespace Machine

/-- What an instruction that makes one machine of another leaves as it was. Each part of the machine
stays unless the instruction is one of those that may change it. The parts that no instruction may
change have no condition, and the generator moves on by exactly one byte or not at all. What the
machine makes of the fetched word and of the program counter is no part of this. -/
structure Framed {D K : Type} (m : Machine D K) (i : Instruction) (m' : Machine D K) : Prop where
  keypad_eq : m'.keypad = m.keypad := by rfl
  config_eq : m'.config = m.config := by rfl
  fontBase_eq : m'.memory.fontBase = m.memory.fontBase := by rfl
  halted_eq : m'.halted = m.halted := by rfl
  register_eq : ∀ z, z ∉ i.targets → m'.registers.get z = m.registers.get z := by intros; rfl
  byte_eq : ∀ a, ¬ (m.index.toNat ≤ a ∧ a < m.index.toNat + i.storedBytes) →
    m'.memory.byte a = m.memory.byte a := by intros; rfl
  display_eq : i.redraws = false → m'.display = m.display := by intros; rfl
  stack_eq : i.isCall = false → i.isRet = false → m'.stack = m.stack := by intros; rfl
  index_eq : i.movesIndex = false → m'.index = m.index := by intros; rfl
  delay_eq : i.setsDelay = false → m'.timers.delay = m.timers.delay := by intros; rfl
  sound_eq : i.setsSound = false → m'.timers.sound = m.timers.sound := by intros; rfl
  generator_eq : m'.generator = if i.isRandom then m.generator.take.2 else m.generator

namespace Framed

variable {D K : Type} {m m' : Machine D K} {i : Instruction} {x : Nibble}

/-! ## Families of instructions -/

/-- An instruction that moves the program counter changes nothing else. -/
theorem of_pc (hi : i.isRandom = false) (pc : Address) : Framed m i { m with pc } where
  generator_eq := by rw [hi]; rfl

/-- An instruction that skips changes nothing but the program counter. -/
theorem of_skipIf (hi : i.isRandom = false) (condition : Bool) :
    Framed m i (m.skipIf condition) := by
  rw [skipIf_eq]
  exact of_pc hi _

/-- An instruction that sets a register changes no other. -/
theorem of_setRegister (hi : i.isRandom = false) (hx : x ∈ i.targets) (value : UInt8) :
    Framed m i (m.setRegister x value) where
  register_eq z hz := Registers.get_set_of_ne _ (ne_of_mem_of_not_mem hx hz).symm _
  generator_eq := by rw [hi]; rfl

/-- An instruction that sets a register and the flag changes no other. -/
theorem of_setResult (hi : i.isRandom = false) (hx : x ∈ i.targets)
    (hflag : Registers.flag ∈ i.targets) (value : UInt8) (flag : Bool) :
    Framed m i (m.setResult x value flag) where
  register_eq z hz := by
    have hleft : z ≠ Registers.flag := (ne_of_mem_of_not_mem hflag hz).symm
    have hright : z ≠ x := (ne_of_mem_of_not_mem hx hz).symm
    exact (Registers.get_set_of_ne _ hleft _).trans (Registers.get_set_of_ne _ hright _)
  generator_eq := by rw [hi]; rfl

/-- A store changes the bytes that it writes. -/
theorem of_store {bytes : List UInt8} {effect : Effect D K} (hi : i.isRandom = false)
    (hbytes : bytes.length = i.storedBytes) (h : m.store bytes = .ok effect) :
    Framed m i effect.machine := by
  obtain ⟨memory, hwrite, rfl⟩ := store_eq_ok h
  exact {
    fontBase_eq := Memory.fontBase_write hwrite
    byte_eq := fun a ha => by
      rw [← hbytes] at ha
      show memory.byte a = m.memory.byte a
      rw [Memory.byte_write hwrite, dif_neg ha]
    generator_eq := by rw [hi]; rfl }

/-- Filling registers changes those up to the last that is filled. -/
theorem of_fill {bytes : List UInt8} (hbytes : bytes.length = x.val + 1) :
    Framed m (.loadRegisters x) { m with registers := m.registers.fill bytes } where
  register_eq z hz := by
    have hlt : ¬ z.val < bytes.length := by
      intro hlt
      refine hz (List.mem_filter.2 ⟨List.mem_finRange z, ?_⟩)
      rw [decide_eq_true_iff, Fin.le_def]
      omega
    show (m.registers.fill bytes).get z = m.registers.get z
    rw [Registers.get_fill, dif_neg hlt]
  generator_eq := rfl

end Framed

/-! ## Every instruction -/

variable {D K : Type} [Display D] [KeySource K] {m : Machine D K} {i : Instruction}

/-- An instruction that succeeds changes what it may change and nothing else. -/
theorem framed_execute {effect : Effect D K} (h : m.execute i = .ok effect) :
    Framed m i effect.machine := by
  cases i
  -- first the instructions that can fail or wait
  case ret =>
    obtain ⟨pc, stack, -, rfl⟩ := execute_ret_eq_ok h
    exact { stack_eq := nofun, generator_eq := rfl }
  case call =>
    obtain ⟨stack, -, rfl⟩ := execute_call_eq_ok h
    exact { stack_eq := nofun, generator_eq := rfl }
  case draw =>
    obtain ⟨sprite, -, rfl⟩ := execute_draw_eq_ok h
    exact {
      register_eq := fun z hz => Registers.get_set_of_ne _ (List.ne_of_not_mem_cons hz) _
      display_eq := nofun
      generator_eq := rfl }
  case awaitKey x =>
    obtain ⟨key, -, rfl⟩ | ⟨-, rfl⟩ := execute_awaitKey_eq_ok h
    · exact .of_setRegister rfl (List.mem_singleton_self x) key
    · exact .of_pc rfl _
  case storeDecimal => exact .of_store rfl rfl h
  case storeRegisters x => exact .of_store rfl (m.registers.length_upTo x) h
  case loadRegisters =>
    obtain ⟨bytes, hread, rfl⟩ := execute_loadRegisters_eq_ok h
    exact .of_fill (Memory.length_of_read hread)
  -- all others always succeed, so that `h` is their effect
  all_goals cases h
  case jump | jumpOffset => exact .of_pc rfl _
  case skipIfConstant | skipUnlessConstant | skipIfEqual | skipUnlessEqual | skipIfHeld |
      skipUnlessHeld => exact .of_skipIf rfl _
  case setConstant x _ | addConstant x _ | copy x _ | or x _ | and x _ | xor x _ | getDelay x =>
    exact .of_setRegister rfl (List.mem_singleton_self x) _
  case add x _ | subtract x _ | subtractFrom x _ | shiftRight x _ | shiftLeft x _ =>
    exact .of_setResult rfl List.mem_cons_self (List.mem_cons_of_mem x List.mem_cons_self) _ _
  case random x _ =>
    exact {
      register_eq := fun z hz => Registers.get_set_of_ne _ (List.ne_of_not_mem_cons hz) _
      generator_eq := rfl }
  case clearScreen => exact { display_eq := nofun, generator_eq := rfl }
  case setIndex | addIndex | pointGlyph => exact { index_eq := nofun, generator_eq := rfl }
  case setDelay => exact { delay_eq := nofun, generator_eq := rfl }
  case setSound => exact { sound_eq := nofun, generator_eq := rfl }
  case unmapped => exact { generator_eq := rfl }

omit [Display D] [KeySource K] in
/-- A fetch changes nothing that a frame speaks of. -/
theorem Framed.of_afterFetch {m' : Machine D K} {word : Opcode}
    (h : Framed (m.afterFetch word) i m') : Framed m i m' :=
  { h with }

/-- A word without a meaning leaves the machine as it was after the fetch. -/
theorem execute_unmapped_eq_ok {word : Opcode} {effect : Effect D K}
    (h : m.execute (.unmapped word) = .ok effect) : effect.machine = m := by
  cases h
  rfl

/-! ## Steps -/

/-- **The frame of a step.** A step that does not fail, and that executes an instruction, changes
what this instruction may change, the word executed last, and the program counter; a word without a
meaning changes no more than these two. A step that finds no instruction halts the machine and
changes nothing else, and no other step halts it. A halted machine stays as it is. -/
theorem framed_step {outcome : Outcome} (hok : m.step.result = .ok outcome) :
    (∀ word, m.halted = false → m.memory.fetch? m.pc = some word →
      Framed m (.decode word) m.step.machine ∧ m.step.machine.opcode = word ∧
      ∀ w, .decode word = Instruction.unmapped w →
        m.step.machine = { m with pc := m.pc + 2, opcode := word }) ∧
    (m.halted = false → m.memory.fetch? m.pc = none → m.step.machine = { m with halted := true }) ∧
    (m.step.machine.halted ≠ m.halted → m.memory.fetch? m.pc = none) ∧
    (m.halted = true → m.step.machine = m) := by
  refine ⟨?_, ?_, ?_, ?_⟩
  · intro word hruns hfetch
    cases hexecute : (m.afterFetch word).execute (.decode word) with
    | error fault =>
      rw [step_of_execute_eq_error hruns hfetch hexecute] at hok
      cases hok
    | ok effect =>
      rw [step_of_execute_eq_ok hruns hfetch hexecute]
      refine ⟨(framed_execute hexecute).of_afterFetch, (execute_change hexecute).opcode, ?_⟩
      intro w hw
      rw [hw] at hexecute
      exact execute_unmapped_eq_ok hexecute
  · intro hruns hnone
    rw [step_of_fetch_eq_none hruns hnone]
  · intro hne
    rcases m.step_cases with ⟨-, hstep⟩ | ⟨-, hnone, -⟩ | ⟨word, effect, -, -, hexecute, hstep⟩ |
      ⟨word, fault, -, -, -, hstep⟩
    · rw [hstep] at hne
      exact absurd rfl hne
    · exact hnone
    · rw [hstep] at hne
      exact absurd (execute_change hexecute).halted hne
    · rw [hstep] at hok
      cases hok
  · intro hhalted
    rw [step_of_halted hhalted]

/-- A shift of another register keeps that register, and memory, and the generator. -/
theorem framed_step_shift :
    ∃ m : Machine FrameBuffer Keypad, m.Reachable ∧ m.config.shiftSource = .vy ∧
      m.nextInstruction? = some (.shiftRight 3 2) ∧
      m.step.machine.registers.get 3 ≠ m.registers.get 3 ∧
      m.step.machine.registers.get 2 = m.registers.get 2 ∧
      m.step.machine.memory.byte 0x200 = m.memory.byte 0x200 ∧
      m.step.machine.generator = m.generator := by
  let m : Machine FrameBuffer Keypad :=
    (create ⟨.vy, 0, some 8⟩ (Bitmap.blank 64 32) .released (Vector.replicate 8 0)).after
      [.load [0x62, 0x05, 0x83, 0x26], .step]
  have hbefore : m.halted = false ∧ m.config.shiftSource = .vy ∧
      m.memory.fetch? m.pc = some 0x8326 ∧ m.nextInstruction? = some (.shiftRight 3 2) ∧
      m.step.result.isOk = true ∧
      m.step.machine.registers.get 3 ≠ m.registers.get 3 := by
    decide +kernel
  obtain ⟨hruns, hsource, hfetch, hnext, hresult, hchanged⟩ := hbefore
  obtain ⟨outcome, hok⟩ : ∃ outcome, m.step.result = .ok outcome := by
    cases hcase : m.step.result with
    | ok outcome => exact ⟨outcome, rfl⟩
    | error fault =>
      rw [hcase] at hresult
      cases hresult
  have hreachable : m.Reachable := ⟨_, _, _, _, _, rfl⟩
  have hdecode : Instruction.decode 0x8326 = .shiftRight 3 2 := by decide
  -- from here on only the facts about the machine count, not how it came about
  clear_value m
  obtain ⟨hframed, -, -⟩ := (framed_step hok).1 _ hruns hfetch
  rw [hdecode] at hframed
  exact ⟨m, hreachable, hsource, hnext, hchanged, hframed.register_eq 2 (by decide),
    hframed.byte_eq 0x200 fun h => Nat.not_lt.2 h.1 h.2, hframed.generator_eq⟩

end Machine

end Chip8
