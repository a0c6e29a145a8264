import Chip8.Machine.History
import Chip8.Proofs.InPlace

/-!
# What steps and instructions can do

`step_eq` says what a step does, by the table of instructions. `step_cases` lists the four ways in
which a step goes, and `Change` what an instruction that succeeds can make of the machine.
`execute_change` goes through all instructions once; what the invariants need of them, they read off
the eight kinds of `Change`.
-/

namespace Chip8

namespace Instruction

/-- Whether an instruction is a call. -/
def isCall : Instruction → Bool
  | .call _ => true
  | _ => false

/-- Whether an instruction is a return. -/
def isRet : Instruction → Bool
  | .ret => true
  | _ => false

/-- Whether an instruction goes on elsewhere in the program: a jump, a call or a return. -/
def isTransfer : Instruction → Bool
  | .jump _ | .call _ | .ret | .jumpOffset _ => true
  | _ => false

/-- An instruction that goes on in place neither calls nor returns. -/
theorem isCall_isRet_of_isTransfer {i : Instruction} (h : i.isTransfer = false) :
    i.isCall = false ∧ i.isRet = false := by
  cases i
  case call | ret => cases h
  all_goals exact ⟨rfl, rfl⟩

end Instruction

namespace Machine

/-! ## Fetching -/

section

variable {D K : Type} {m : Machine D K} {word : Opcode}

/-- The instruction that the next step executes is the one at the program counter. -/
theorem nextInstruction?_of_fetch (hruns : m.halted = false)
    (hfetch : m.memory.fetch? m.pc = some word) : m.nextInstruction? = some (.decode word) := by
  rw [nextInstruction?, hruns, hfetch]
  rfl

/-- If the next step executes an instruction then the machine runs and can fetch it. -/
theorem fetch_of_nextInstruction? {i : Instruction} (h : m.nextInstruction? = some i) :
    ∃ word, m.halted = false ∧ m.memory.fetch? m.pc = some word ∧ .decode word = i := by
  unfold nextInstruction? at h
  split at h
  · cases h
  · rename_i hhalted
    obtain ⟨word, hfetch, hdecode⟩ := Option.map_eq_some_iff.1 h
    exact ⟨word, by simpa using hhalted, hfetch, hdecode⟩

/-- Stepping over an instruction that was fetched does not wrap around. -/
theorem toNat_next_of_fetch (hfetch : m.memory.fetch? m.pc = some word) :
    m.pc.next.toNat = m.pc.toNat + 2 := by
  have hlt := Memory.lt_of_fetch? hfetch
  exact Address.toNat_next (by omega)

end

/-! ## Stepping -/

variable {D K : Type} [Display D] [KeySource K] {m : Machine D K} {effect : Effect D K}

/-- A step has the effect of the instruction that it executes, or its fault. A machine whose
instruction fails is the one after the fetch, as `Work.run_execute` says, and halts. -/
theorem step_eq (m : Machine D K) :
    m.step =
      if m.halted then ⟨m, .ok .halted, []⟩
      else
        match m.memory.fetch? m.pc with
        | none => ⟨{ m with halted := true }, .ok .halted, [.ranPastEnd m.pc]⟩
        | some word =>
          match (m.afterFetch word).execute (.decode word) with
          | .ok effect =>
            ⟨effect.machine, .ok effect.outcome, .fetched m.pc word :: effect.messages⟩
          | .error fault =>
            ⟨{ m.afterFetch word with halted := true }, .error fault,
              [.fetched m.pc word, .faulted fault]⟩ := by
  rw [step, Work.reply, Work.step, EStateM.run_bind, Work.run_machine]
  dsimp only
  cases m.halted with
  | true => rfl
  | false =>
    cases m.memory.fetch? m.pc with
    | none => rfl
    | some word =>
      simp only [Bool.false_eq_true, if_false, EStateM.run_bind, Work.report, EStateM.run_modify,
        List.nil_append, Work.run_change, InPlace.run_tryCatch, Work.run_execute]
      cases (m.afterFetch word).execute (.decode word) <;> rfl

/-- A machine that has halted stays as it is. -/
theorem step_of_halted (hhalted : m.halted = true) : m.step = ⟨m, .ok .halted, []⟩ := by
  rw [step_eq, hhalted]
  rfl

/-- A machine that finds no instruction halts. -/
theorem step_of_fetch_eq_none (hruns : m.halted = false) (hfetch : m.memory.fetch? m.pc = none) :
    m.step = ⟨{ m with halted := true }, .ok .halted, [.ranPastEnd m.pc]⟩ := by
  rw [step_eq, hruns, hfetch]
  rfl

/-- An instruction that succeeds has its effect. -/
theorem step_of_execute_eq_ok {word : Opcode} (hruns : m.halted = false)
    (hfetch : m.memory.fetch? m.pc = some word)
    (hexecute : (m.afterFetch word).execute (.decode word) = .ok effect) :
    m.step = ⟨effect.machine, .ok effect.outcome, .fetched m.pc word :: effect.messages⟩ := by
  rw [step_eq, hruns, hfetch]
  dsimp only
  rw [hexecute]
  rfl

/-- An instruction that fails halts the machine where it stands after the fetch. -/
theorem step_of_execute_eq_error {word : Opcode} {fault : Fault} (hruns : m.halted = false)
    (hfetch : m.memory.fetch? m.pc = some word)
    (hexecute : (m.afterFetch word).execute (.decode word) = .error fault) :
    m.step = ⟨{ m.afterFetch word with halted := true }, .error fault,
      [.fetched m.pc word, .faulted fault]⟩ := by
  rw [step_eq, hruns, hfetch]
  dsimp only
  rw [hexecute]
  rfl

/-- A step finds the machine halted, finds no instruction, executes one, or meets a fault. -/
theorem step_cases (m : Machine D K) :
    (m.halted = true ∧ m.step = ⟨m, .ok .halted, []⟩) ∨
    (m.halted = false ∧ m.memory.fetch? m.pc = none ∧
      m.step = ⟨{ m with halted := true }, .ok .halted, [.ranPastEnd m.pc]⟩) ∨
    (∃ word effect, m.halted = false ∧ m.memory.fetch? m.pc = some word ∧
      (m.afterFetch word).execute (.decode word) = .ok effect ∧
      m.step = ⟨effect.machine, .ok effect.outcome, .fetched m.pc word :: effect.messages⟩) ∨
    (∃ word fault, m.halted = false ∧ m.memory.fetch? m.pc = some word ∧
      (m.afterFetch word).execute (.decode word) = .error fault ∧
      m.step = ⟨{ m.afterFetch word with halted := true }, .error fault,
        [.fetched m.pc word, .faulted fault]⟩) := by
  cases hruns : m.halted with
  | true => exact .inl ⟨rfl, step_of_halted hruns⟩
  | false =>
    refine .inr ?_
    cases hfetch : m.memory.fetch? m.pc with
    | none => exact .inl ⟨rfl, rfl, step_of_fetch_eq_none hruns hfetch⟩
    | some word =>
      refine .inr ?_
      cases hexecute : (m.afterFetch word).execute (.decode word) with
      | ok effect =>
        exact .inl ⟨word, effect, rfl, rfl, hexecute, step_of_execute_eq_ok hruns hfetch hexecute⟩
      | error fault =>
        exact .inr
          ⟨word, fault, rfl, rfl, hexecute, step_of_execute_eq_error hruns hfetch hexecute⟩

/-! ## Instructions that go on in place -/

/-- An instruction makes one machine of another and has nothing to report: if it is executed alone,
and if a step of the machine executes it. -/
structure Executes (m : Machine D K) (i : Instruction) (m' : Machine D K) : Prop where
  execute_eq : m.execute i = .ok ⟨m', .executed, []⟩
  step_eq : m.nextInstruction? = some i →
    ∃ word, m.step = ⟨m'.afterFetch word, .ok .executed, [.fetched m.pc word]⟩

/-- What an instruction does alone it does in a step, if the fetch makes no difference to it. -/
theorem Executes.of_afterFetch {m' : Machine D K} {i : Instruction}
    (hexecute : m.execute i = done m')
    (hafter : ∀ word, (m.afterFetch word).execute i = done (m'.afterFetch word)) :
    m.Executes i m' where
  execute_eq := hexecute
  step_eq hnext := by
    obtain ⟨word, hruns, hfetch, rfl⟩ := fetch_of_nextInstruction? hnext
    exact ⟨word, step_of_execute_eq_ok hruns hfetch (hafter word)⟩

/-! ## The instructions that can fail or wait -/

omit [Display D] [KeySource K] in
/-- A store that succeeds writes its bytes at the index register. -/
theorem store_eq_ok {bytes : List UInt8} (h : m.store bytes = .ok effect) :
    ∃ memory, m.memory.write m.index.toNat bytes = .ok memory ∧
      effect = ⟨{ m with memory }, .executed, []⟩ := by
  rw [store] at h
  split at h
  · rename_i memory hwrite
    cases h
    exact ⟨memory, hwrite, rfl⟩
  · cases h

omit [Display D] [KeySource K] in
/-- A store whose write succeeds is done. -/
theorem store_of_write {bytes : List UInt8} {memory : Memory}
    (hwrite : m.memory.write m.index.toNat bytes = .ok memory) :
    m.store bytes = done { m with memory } := by
  rw [store, hwrite]

/-- Storing puts each register up to `VX` at its place. -/
theorem byte_write_upTo {memory memory' : Memory} {registers : Registers} {address : Nat}
    {x z : Nibble} (hwrite : memory.write address (registers.upTo x) = .ok memory') (hz : z ≤ x) :
    memory'.byte (address + z.val) = registers.get z := by
  have hlength : z.val < (registers.upTo x).length := by
    rw [Registers.length_upTo]
    exact Nat.lt_succ_of_le hz
  exact (Memory.byte_write_add hwrite hlength).trans (registers.getElem_upTo x z hlength)

/-- A return that succeeds goes on at the top of the call stack and takes it off. -/
theorem execute_ret_eq_ok (h : m.execute .ret = .ok effect) :
    ∃ pc stack, m.stack.pop? = some (pc, stack) ∧
      effect = ⟨{ m with pc, stack }, .executed, []⟩ := by
  rw [execute] at h
  split at h
  · rename_i pc stack hpop
    cases h
    exact ⟨pc, stack, hpop, rfl⟩
  · cases h

/-- A call that succeeds puts the program counter on the call stack and goes on at its target. -/
theorem execute_call_eq_ok {target : ShortAddress} (h : m.execute (.call target) = .ok effect) :
    ∃ stack, m.stack.push? m.pc = some stack ∧
      effect = ⟨{ m with pc := target.toAddress, stack }, .executed, []⟩ := by
  rw [execute] at h
  split at h
  · rename_i stack hpush
    cases h
    exact ⟨stack, hpush, rfl⟩
  · cases h

/-- A draw that succeeds changes the display and the flag. -/
theorem execute_draw_eq_ok {x y n : Nibble} (h : m.execute (.draw x y n) = .ok effect) :
    ∃ sprite, m.memory.read m.index.toNat n.val = .ok sprite ∧
      effect = ⟨{ m with
        display := (drawSprite m.display (m.registers.get x) (m.registers.get y) sprite).display
        registers := m.registers.setFlag
          (drawSprite m.display (m.registers.get x) (m.registers.get y) sprite).collision },
        .executed, []⟩ := by
  rw [execute] at h
  split at h
  · rename_i sprite hread
    cases h
    exact ⟨sprite, hread, rfl⟩
  · cases h

/-- Loading registers, if it succeeds, fills them with the bytes at the index register. -/
theorem execute_loadRegisters_eq_ok {x : Nibble} (h : m.execute (.loadRegisters x) = .ok effect) :
    ∃ bytes, m.memory.read m.index.toNat (x.val + 1) = .ok bytes ∧
      effect = ⟨{ m with registers := m.registers.fill bytes }, .executed, []⟩ := by
  rw [execute] at h
  split at h
  · rename_i bytes hread
    cases h
    exact ⟨bytes, hread, rfl⟩
  · cases h

/-- Waiting for a key gives the lowest key that is held, or else goes back to wait again. -/
theorem execute_awaitKey_eq_ok {x : Nibble} (h : m.execute (.awaitKey x) = .ok effect) :
    (∃ key, KeySource.lowestHeld? m.keypad = some key ∧
      effect = ⟨m.setRegister x key, .executed, []⟩) ∨
    (KeySource.lowestHeld? m.keypad = none ∧
      effect = ⟨{ m with pc := m.pc.previous }, .awaitingKey, [.awaitingKey x]⟩) := by
  rw [execute] at h
  split at h
  · rename_i key hkey
    cases h
    exact .inl ⟨key, hkey, rfl⟩
  · rename_i hkey
    cases h
    exact .inr ⟨hkey, rfl⟩

/-! ## The instructions by kind -/

/-- What an instruction can make of a display: leave it, clear it, or draw one sprite. -/
inductive Redrawn (d : D) : D → Prop
  | same : Redrawn d d
  | cleared : Redrawn d (Display.clear d)
  | drawn (x y : UInt8) (sprite : List UInt8) : Redrawn d (drawSprite d x y sprite).display

/-- What a successful instruction can make of a machine. Four kinds of instruction move the program
counter to another part of the program; of the others some leave one instruction out, one may wait,
two write to memory, and the rest stay clear of control and memory. -/
inductive Change (m : Machine D K) : Instruction → Effect D K → Prop
  | returned {pc : Address} {stack : CallStack} (hpop : m.stack.pop? = some (pc, stack)) :
    Change m .ret ⟨{ m with pc, stack }, .executed, []⟩
  | called {target : ShortAddress} {stack : CallStack} (hpush : m.stack.push? m.pc = some stack) :
    Change m (.call target) ⟨{ m with pc := target.toAddress, stack }, .executed, []⟩
  | jumped (target : ShortAddress) :
    Change m (.jump target) ⟨{ m with pc := target.toAddress }, .executed, []⟩
  | jumpedOffset (target : ShortAddress) :
    Change m (.jumpOffset target)
      ⟨{ m with pc := target.toAddress + (m.registers.get 0).toUInt16 }, .executed, []⟩
  | skipped {i : Instruction} (hi : i.isTransfer = false) (condition : Bool) :
    Change m i ⟨m.skipIf condition, .executed, []⟩
  | waited (x : Nibble) :
    Change m (.awaitKey x) ⟨{ m with pc := m.pc.previous }, .awaitingKey, [.awaitingKey x]⟩
  | stored {i : Instruction} (hi : i.isTransfer = false) {bytes : List UInt8} {memory : Memory}
    (hwrite : m.memory.write m.index.toNat bytes = .ok memory) :
    Change m i ⟨{ m with memory }, .executed, []⟩
  | computed {i : Instruction} (hi : i.isTransfer = false) {display : D}
    (hdisplay : Redrawn m.display display) (registers : Registers) (index : Address)
    (timers : Timers) (generator : KeyStream.Generator) (messages : List Message) :
    Change m i ⟨{ m with display, registers, index, timers, generator }, .executed, messages⟩

/-- Every instruction that succeeds is of one of the kinds. -/
theorem execute_change {i : Instruction} (h : m.execute i = .ok effect) : Change m i effect := by
  cases i
  -- first the instructions that can fail or wait: their success says something of the machine
  case ret =>
    obtain ⟨pc, stack, hpop, rfl⟩ := execute_ret_eq_ok h
    exact .returned hpop
  case call =>
    obtain ⟨stack, hpush, rfl⟩ := execute_call_eq_ok h
    exact .called hpush
  case draw =>
    obtain ⟨-, -, rfl⟩ := execute_draw_eq_ok h
    exact .computed rfl (.drawn _ _ _) _ _ _ _ _
  case awaitKey x =>
    obtain ⟨-, -, rfl⟩ | ⟨-, rfl⟩ := execute_awaitKey_eq_ok h
    · exact .computed rfl .same _ _ _ _ _
    · exact .waited x
  case storeDecimal | storeRegisters =>
    obtain ⟨memory, hwrite, rfl⟩ := store_eq_ok h
    exact .stored rfl hwrite
  case loadRegisters =>
    obtain ⟨-, -, rfl⟩ := execute_loadRegisters_eq_ok h
    exact .computed rfl .same _ _ _ _ _
  -- all others always succeed, so that `h` is their effect
  all_goals cases h
  case clearScreen => exact .computed rfl .cleared _ _ _ _ _
  case jump => exact .jumped _
  case jumpOffset => exact .jumpedOffset _
  case skipIfConstant | skipUnlessConstant | skipIfEqual | skipUnlessEqual | skipIfHeld |
      skipUnlessHeld => exact .skipped rfl _
  all_goals exact .computed rfl .same _ _ _ _ _

/-- Two instructions have something to report: a word without a meaning, and one that waits. -/
theorem messages_of_execute {i : Instruction} (h : m.execute i = .ok effect) :
    effect.messages = [] ∨ (∃ word, i = .unmapped word ∧ effect.messages = [.ignored word]) ∨
      ∃ x, i = .awaitKey x ∧ effect.messages = [.awaitingKey x] := by
  cases i
  case ret =>
    obtain ⟨-, -, -, rfl⟩ := execute_ret_eq_ok h
    exact .inl rfl
  case call =>
    obtain ⟨-, -, rfl⟩ := execute_call_eq_ok h
    exact .inl rfl
  case draw =>
    obtain ⟨-, -, rfl⟩ := execute_draw_eq_ok h
    exact .inl rfl
  case awaitKey x =>
    obtain ⟨-, -, rfl⟩ | ⟨-, rfl⟩ := execute_awaitKey_eq_ok h
    · exact .inl rfl
    · exact .inr (.inr ⟨x, rfl, rfl⟩)
  case storeDecimal | storeRegisters =>
    obtain ⟨-, -, rfl⟩ := store_eq_ok h
    exact .inl rfl
  case loadRegisters =>
    obtain ⟨-, -, rfl⟩ := execute_loadRegisters_eq_ok h
    exact .inl rfl
  all_goals cases h
  case unmapped word => exact .inr (.inl ⟨word, rfl, rfl⟩)
  all_goals exact .inl rfl

omit [Display D] [KeySource K] in
/-- A skip moves the program counter or nothing. -/
theorem skipIf_eq (condition : Bool) :
    m.skipIf condition = { m with pc := if condition then m.pc.next else m.pc } := by
  cases condition <;> rfl

namespace Change

variable {i : Instruction}

omit [KeySource K] in
/-- A return takes the top off the call stack and goes on there, a call puts the program counter on
it, and no other instruction touches it. -/
theorem stack (h : Change m i effect) :
    (i = .ret ∧ m.stack.addresses = effect.machine.stack.addresses ++ [effect.machine.pc]) ∨
    (∃ target, i = .call target ∧ m.stack.addresses.length < 16 ∧
      effect.machine.stack.addresses = m.stack.addresses ++ [m.pc]) ∨
    ((i.isCall = false ∧ i.isRet = false) ∧ effect.machine.stack = m.stack) := by
  cases h with
  | returned hpop => exact .inl ⟨rfl, CallStack.addresses_of_pop? hpop⟩
  | called hpush => exact .inr (.inl ⟨_, rfl, CallStack.addresses_of_push? hpush⟩)
  | jumped | jumpedOffset | waited => exact .inr (.inr ⟨⟨rfl, rfl⟩, rfl⟩)
  | skipped hi condition =>
    rw [skipIf_eq]
    exact .inr (.inr ⟨Instruction.isCall_isRet_of_isTransfer hi, rfl⟩)
  | stored hi | computed hi =>
    exact .inr (.inr ⟨Instruction.isCall_isRet_of_isTransfer hi, rfl⟩)

omit [KeySource K] in
/-- No instruction moves the font. -/
theorem fontBase (h : Change m i effect) :
    effect.machine.memory.fontBase = m.memory.fontBase := by
  cases h with
  | skipped hi condition => rw [skipIf_eq]
  | stored hi hwrite => exact Memory.fontBase_write hwrite
  | returned | called | jumped | jumpedOffset | waited | computed => rfl

omit [KeySource K] in
/-- No instruction that succeeds halts the machine. -/
theorem halted (h : Change m i effect) : effect.machine.halted = m.halted := by
  cases h with
  | skipped hi condition => rw [skipIf_eq]
  | returned | called | jumped | jumpedOffset | waited | stored | computed => rfl

omit [KeySource K] in
/-- No instruction changes the word that was fetched. -/
theorem opcode (h : Change m i effect) : effect.machine.opcode = m.opcode := by
  cases h with
  | skipped hi condition => rw [skipIf_eq]
  | returned | called | jumped | jumpedOffset | waited | stored | computed => rfl

omit [KeySource K] in
/-- An instruction that succeeds is done or waits. -/
theorem outcome (h : Change m i effect) :
    effect.outcome = .executed ∨ effect.outcome = .awaitingKey := by
  cases h with
  | waited => exact .inr rfl
  | returned | called | jumped | jumpedOffset | skipped | stored | computed => exact .inl rfl

omit [KeySource K] in
/-- An instruction that is done without a transfer leaves the program counter where the fetch has
put it, or moves it over one more instruction. -/
theorem pc (h : Change m i effect) (hi : i.isTransfer = false)
    (houtcome : effect.outcome = .executed) :
    effect.machine.pc = m.pc ∨ effect.machine.pc = m.pc.next := by
  cases h with
  | returned | called | jumped | jumpedOffset => cases hi
  | waited => cases houtcome
  | skipped hi condition =>
    rw [skipIf_eq]
    cases condition with
    | true => exact .inr rfl
    | false => exact .inl rfl
  | stored | computed => exact .inl rfl

omit [KeySource K] in
/-- Every instruction leaves the display, clears it, or draws one sprite. -/
theorem redrawn (h : Change m i effect) : Redrawn m.display effect.machine.display := by
  cases h with
  | skipped hi condition =>
    rw [skipIf_eq]
    exact .same
  | computed hi hdisplay => exact hdisplay
  | returned | called | jumped | jumpedOffset | waited | stored => exact .same

end Change

end Machine

end Chip8
