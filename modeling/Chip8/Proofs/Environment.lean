import Chip8.Display.Bitmap
import Chip8.Proofs.Frame
import Chip8.Proofs.Runs

/-!
# What the environment can leak into a machine

The display, the keys, the timers and the random bytes are the environment of a program; the rest of
a machine is its `Core`. Six instructions look at the environment. `Instruction.learnsIn` names the
registers in which they leave what they see, and `Instruction.branchesOnKeys` says which of them let
the keypad decide where the program goes on. Two machines with one core take steps that agree in
everything else (`step_of_core_eq`); an instruction that fails looks at no part of the environment
before it fails. So in a history that executes none of the six, nothing of the environment shows:
not in the cores, nor in any result, however ticks and keys come in between (`observations_eq`).
-/

namespace Chip8

/-! ## The instructions that look at the environment -/

namespace Instruction

/-- The registers in which an instruction leaves something of what it sees of the environment. -/
def learnsIn : Instruction → List Nibble
  | draw _ _ _ => [Registers.flag]
  | random x _ | getDelay x | awaitKey x => [x]
  | _ => []

/-- Whether the keypad decides where an instruction goes on. -/
def branchesOnKeys : Instruction → Bool
  | skipIfHeld _ | skipUnlessHeld _ | awaitKey _ => true
  | _ => false

/-- Whether an instruction waits for a key. -/
def isAwaitKey : Instruction → Bool
  | awaitKey _ => true
  | _ => false

/-- Whether an instruction looks at the environment. -/
def looksOutside : Instruction → Bool
  | random _ _ | draw _ _ _ | skipIfHeld _ | skipUnlessHeld _ | getDelay _ | awaitKey _ => true
  | _ => false

/-- An instruction that does not look at the environment learns nothing of it. -/
theorem learns_nothing {i : Instruction} (h : i.looksOutside = false) :
    i.learnsIn = [] ∧ i.branchesOnKeys = false ∧ i.isAwaitKey = false := by
  cases i
  case random | draw | skipIfHeld | skipUnlessHeld | getDelay | awaitKey => cases h
  all_goals exact ⟨rfl, rfl, rfl⟩

end Instruction

/-! ## The core of a machine -/

/-- What a machine is apart from its environment. Of the configuration it holds what a program can
notice, and of the call stack the addresses in use. -/
structure Core where
  /-- What the shift instructions shift. -/
  shiftSource : ShiftSource
  /-- The requested address of the font. -/
  fontBase : Address
  /-- The byte registers. -/
  registers : Registers
  /-- The memory with program and font. -/
  memory : Memory
  /-- The address of the next instruction. -/
  pc : Address
  /-- The index register. -/
  index : Address
  /-- Where open calls come back to, the oldest first. -/
  stack : List Address
  /-- The word that was executed last. -/
  opcode : Opcode
  /-- Whether the machine has stopped for good. -/
  halted : Bool

/-- Two cores that differ at most in some registers, and in the program counter if they branch. -/
structure Core.SameBut (c₁ c₂ : Core) (registers : List Nibble) (branches : Bool) : Prop where
  shiftSource_eq : c₁.shiftSource = c₂.shiftSource := by rfl
  fontBase_eq : c₁.fontBase = c₂.fontBase := by rfl
  register_eq : ∀ z, z ∉ registers → c₁.registers.get z = c₂.registers.get z := by intros; rfl
  memory_eq : c₁.memory = c₂.memory := by rfl
  pc_eq : branches = false → c₁.pc = c₂.pc := by intros; rfl
  index_eq : c₁.index = c₂.index := by rfl
  stack_eq : c₁.stack = c₂.stack := by rfl
  opcode_eq : c₁.opcode = c₂.opcode := by rfl
  halted_eq : c₁.halted = c₂.halted := by rfl

namespace Core

/-- A core differs in nothing from itself. -/
theorem SameBut.of_eq {c₁ c₂ : Core} (h : c₁ = c₂) (registers : List Nibble) (branches : Bool) :
    SameBut c₁ c₂ registers branches := by
  subst h
  exact {}

/-- Cores that differ in no register and do not branch are the same. -/
theorem SameBut.eq {c₁ c₂ : Core} (h : SameBut c₁ c₂ [] false) : c₁ = c₂ := by
  have hregisters : c₁.registers = c₂.registers :=
    Registers.ext_get fun z => h.register_eq z List.not_mem_nil
  obtain ⟨⟩ := c₁
  obtain ⟨⟩ := c₂
  rw [Core.mk.injEq]
  exact ⟨h.shiftSource_eq, h.fontBase_eq, hregisters, h.memory_eq, h.pc_eq rfl, h.index_eq,
    h.stack_eq, h.opcode_eq, h.halted_eq⟩

end Core

namespace Machine

variable {D K : Type}

/-- The machine without its environment. -/
def core (m : Machine D K) : Core where
  shiftSource := m.config.shiftSource
  fontBase := m.config.fontBase
  registers := m.registers
  memory := m.memory
  pc := m.pc
  index := m.index
  stack := m.stack.addresses
  opcode := m.opcode
  halted := m.halted

variable {m₁ m₂ : Machine D K}

/-- New machines have one core if their configurations differ in the seed at most. -/
theorem core_create_eq {config₁ config₂ : Config}
    (hshift : config₁.shiftSource = config₂.shiftSource)
    (hfont : config₁.fontBase = config₂.fontBase) (display₁ display₂ : D) (keypad₁ keypad₂ : K)
    (entropy₁ entropy₂ : KeyStream.Key) :
    (create config₁ display₁ keypad₁ entropy₁).core =
      (create config₂ display₂ keypad₂ entropy₂).core := by
  simp only [core, create, hshift, hfont]

/-- To look at two machines with one core is to look at one machine and at another environment for
it. What the unused slots of the call stack hold counts as environment, and so does the seed. -/
theorem exists_of_core_eq (h : m₁.core = m₂.core) :
    ∃ display keypad seed stack timers generator, stack.addresses = m₁.stack.addresses ∧
      m₂ = { m₁ with
        display, keypad, stack, timers, generator
        config := { m₁.config with seed } } := by
  obtain ⟨display, keypad, ⟨_, _, seed⟩, _, _, _, _, stack, timers, _, _, generator⟩ := m₂
  simp only [core, Core.mk.injEq] at h
  obtain ⟨rfl, rfl, rfl, rfl, rfl, rfl, hstack, rfl, rfl⟩ := h
  exact ⟨display, keypad, seed, stack, timers, generator, hstack.symm, rfl⟩

/-- Machines with one core execute the same instruction next. -/
theorem nextInstruction?_eq_of_core_eq (h : m₁.core = m₂.core) :
    m₁.nextInstruction? = m₂.nextInstruction? := by
  obtain ⟨-, -, -, -, -, -, -, rfl⟩ := exists_of_core_eq h
  rfl

/-- Machines with one core have one core after they have fetched a word. -/
theorem core_afterFetch_eq (h : m₁.core = m₂.core) (word : Opcode) :
    (m₁.afterFetch word).core = (m₂.afterFetch word).core := by
  obtain ⟨display, keypad, seed, stack, timers, generator, hstack, rfl⟩ := exists_of_core_eq h
  simp only [core, afterFetch, hstack]

/-! ## Every instruction -/

/-- One instruction on two machines: it fails on both with one fault, or it succeeds on both and
makes cores that differ at most in what it learns. -/
inductive EffectsMatch (i : Instruction) :
    Except Fault (Effect D K) → Except Fault (Effect D K) → Prop
  | failed (fault : Fault) : EffectsMatch i (.error fault) (.error fault)
  | succeeded {effect₁ effect₂ : Effect D K}
    (hcore : effect₁.machine.core.SameBut effect₂.machine.core i.learnsIn i.branchesOnKeys)
    (houtcome : i.isAwaitKey = false → effect₁.outcome = effect₂.outcome) :
    EffectsMatch i (.ok effect₁) (.ok effect₂)

namespace EffectsMatch

variable {i : Instruction}

/-- Instructions that are done with cores that differ at most in what they learn. -/
theorem done (h : m₁.core.SameBut m₂.core i.learnsIn i.branchesOnKeys) :
    EffectsMatch i (done m₁) (done m₂) := .succeeded h fun _ => rfl

/-- A store looks at nothing but the core. -/
theorem store (h : m₁.core = m₂.core) (bytes : List UInt8) :
    EffectsMatch i (m₁.store bytes) (m₂.store bytes) := by
  obtain ⟨display, keypad, seed, stack, timers, generator, hstack, rfl⟩ := exists_of_core_eq h
  rw [Machine.store, Machine.store]
  dsimp only
  cases m₁.memory.write m₁.index.toNat bytes with
  | error fault => exact .failed fault
  | ok memory => exact .done { stack_eq := hstack.symm }

/-- What matches a success is a success. -/
theorem eq_ok {effect₁ : Effect D K} {r : Except Fault (Effect D K)}
    (h : EffectsMatch i (.ok effect₁) r) :
    ∃ effect₂, r = .ok effect₂ ∧
      effect₁.machine.core.SameBut effect₂.machine.core i.learnsIn i.branchesOnKeys ∧
      (i.isAwaitKey = false → effect₁.outcome = effect₂.outcome) := by
  cases h with
  | succeeded hcore houtcome => exact ⟨_, rfl, hcore, houtcome⟩

/-- What matches a failure is a failure with the same fault. -/
theorem eq_error {fault : Fault} {r : Except Fault (Effect D K)}
    (h : EffectsMatch i (.error fault) r) : r = .error fault := by
  cases h
  rfl

end EffectsMatch

/-- Whatever is put into a register, all others stay the same. -/
private theorem get_set_eq_get_set {x z : Nibble} (hz : z ∉ [x]) (r : Registers)
    (value₁ value₂ : UInt8) : (r.set x value₁).get z = (r.set x value₂).get z := by
  have hne : z ≠ x := List.ne_of_not_mem_cons hz
  rw [Registers.get_set_of_ne _ hne, Registers.get_set_of_ne _ hne]

variable [Display D] [KeySource K]

/-- An instruction has effects that match on machines with one core. -/
theorem effectsMatch_execute (h : m₁.core = m₂.core) (i : Instruction) :
    EffectsMatch i (m₁.execute i) (m₂.execute i) := by
  obtain ⟨display, keypad, seed, stack, timers, generator, hstack, rfl⟩ := exists_of_core_eq h
  have hstack' : m₁.stack.addresses = stack.addresses := hstack.symm
  cases i
  -- first the six that look at the environment
  case draw x y n =>
    rw [execute, execute]
    dsimp only
    cases m₁.memory.read m₁.index.toNat n.val with
    | error fault => exact .failed fault
    | ok sprite =>
      exact .done {
        register_eq := fun z hz => get_set_eq_get_set hz m₁.registers _ _
        stack_eq := hstack' }
  case random x _ | getDelay x =>
    exact .done {
      register_eq := fun z hz => get_set_eq_get_set hz m₁.registers _ _
      stack_eq := hstack' }
  case skipIfHeld | skipUnlessHeld =>
    rw [execute, execute, skipIf_eq, skipIf_eq]
    exact .done { pc_eq := fun h => Bool.noConfusion h, stack_eq := hstack' }
  case awaitKey x =>
    rw [execute, execute]
    dsimp only
    -- on each machine a key may be held or not
    rcases KeySource.lowestHeld? m₁.keypad with _ | key₁ <;>
      rcases KeySource.lowestHeld? keypad with _ | key₂ <;>
      refine .succeeded {
        register_eq := fun z hz => ?_
        pc_eq := fun h => Bool.noConfusion h
        stack_eq := hstack' } fun h => Bool.noConfusion h
    · rfl
    · exact (Registers.get_set_of_ne _ (List.ne_of_not_mem_cons hz) _).symm
    · exact Registers.get_set_of_ne _ (List.ne_of_not_mem_cons hz) _
    · exact get_set_eq_get_set hz m₁.registers _ _
  -- then those that can fail
  case ret =>
    rw [execute, execute]
    dsimp only
    rcases CallStack.pop?_congr hstack' with ⟨hpop₁, hpop₂⟩ | ⟨pc, s₁, s₂, hpop₁, hpop₂, hsame⟩ <;>
      rw [hpop₁, hpop₂]
    · exact .failed _
    · exact .done { stack_eq := hsame }
  case call =>
    rw [execute, execute]
    dsimp only
    rcases CallStack.push?_congr hstack' m₁.pc with ⟨hpush₁, hpush₂⟩ |
      ⟨s₁, s₂, hpush₁, hpush₂, hsame⟩ <;> rw [hpush₁, hpush₂]
    · exact .failed _
    · exact .done { stack_eq := hsame }
  case storeDecimal | storeRegisters => exact .store h _
  case loadRegisters x =>
    rw [execute, execute]
    dsimp only
    cases m₁.memory.read m₁.index.toNat (x.val + 1) with
    | error fault => exact .failed fault
    | ok bytes => exact .done { stack_eq := hstack' }
  -- all others succeed and look at the core only
  case skipIfConstant | skipUnlessConstant | skipIfEqual | skipUnlessEqual =>
    rw [execute, execute, skipIf_eq, skipIf_eq]
    exact .done { stack_eq := hstack' }
  case unmapped => exact .succeeded { stack_eq := hstack' } fun _ => rfl
  all_goals exact .done { stack_eq := hstack' }

/-! ## Every step -/

/-- Machines with one core take steps with one result that leave one core, or both execute an
instruction with success, and differ afterwards at most in what it learns. -/
theorem step_of_core_eq (h : m₁.core = m₂.core) :
    (m₁.step.result = m₂.step.result ∧ m₁.step.machine.core = m₂.step.machine.core) ∨
    ∃ i, m₁.executed? .step = some i ∧
      m₁.step.machine.core.SameBut m₂.step.machine.core i.learnsIn i.branchesOnKeys ∧
      (i.isAwaitKey = false → m₁.step.result = m₂.step.result) := by
  have hhalted : m₁.halted = m₂.halted := congrArg Core.halted h
  have hfetched : m₁.memory.fetch? m₁.pc = m₂.memory.fetch? m₂.pc :=
    congrArg (fun c : Core => c.memory.fetch? c.pc) h
  -- the second machine is in the same one of the four cases as the first
  rcases m₁.step_cases with ⟨hstopped, hstep⟩ | ⟨hruns, hnone, hstep⟩ | ⟨word, effect, hruns,
    hfetch, hexecute, hstep⟩ | ⟨word, fault, hruns, hfetch, hexecute, hstep⟩
  · rw [hstep, step_of_halted (hhalted ▸ hstopped)]
    exact .inl ⟨rfl, h⟩
  · rw [hstep, step_of_fetch_eq_none (hhalted ▸ hruns) (hfetched ▸ hnone)]
    exact .inl ⟨rfl, congrArg (fun c : Core => { c with halted := true }) h⟩
  · have hmatch := effectsMatch_execute (core_afterFetch_eq h word) (.decode word)
    rw [hexecute] at hmatch
    obtain ⟨effect₂, hexecute₂, hcore, houtcome⟩ := hmatch.eq_ok
    refine .inr ⟨.decode word, executed?_step hruns hfetch hstep, ?_⟩
    rw [hstep, step_of_execute_eq_ok (hhalted ▸ hruns) (hfetched ▸ hfetch) hexecute₂]
    exact ⟨hcore, fun hi => congrArg Except.ok (houtcome hi)⟩
  · have hcore := core_afterFetch_eq h word
    have hmatch := effectsMatch_execute hcore (.decode word)
    rw [hexecute] at hmatch
    rw [hstep, step_of_execute_eq_error (hhalted ▸ hruns) (hfetched ▸ hfetch) hmatch.eq_error]
    exact .inl ⟨rfl, congrArg (fun c : Core => { c with halted := true }) hcore⟩

/-- Steps on machines with one core differ at most in what their instruction learns, and in their
results at most if it waits for a key. -/
theorem step_sameBut_of_core_eq (h : m₁.core = m₂.core) {i : Instruction}
    (hnext : m₁.nextInstruction? = some i) :
    m₁.step.machine.core.SameBut m₂.step.machine.core i.learnsIn i.branchesOnKeys ∧
      (i.isAwaitKey = false → m₁.step.result = m₂.step.result) := by
  rcases step_of_core_eq h with ⟨hresult, hcore⟩ | ⟨j, hexecuted, hcore, hresult⟩
  · exact ⟨.of_eq hcore _ _, fun _ => hresult⟩
  · have hj := nextInstruction?_of_executed? hexecuted
    rw [hnext] at hj
    obtain rfl := Option.some.inj hj
    exact ⟨hcore, hresult⟩

/-- A step that executes none of the six instructions with success has the same outcome on machines
with one core. -/
theorem step_eq_of_core_eq (h : m₁.core = m₂.core)
    (hinside : ∀ i, m₁.executed? .step = some i → i.looksOutside = false) :
    m₁.step.result = m₂.step.result ∧ m₁.step.machine.core = m₂.step.machine.core := by
  rcases step_of_core_eq h with hsame | ⟨i, hexecuted, hcore, hresult⟩
  · exact hsame
  · obtain ⟨hlearns, hbranches, hawaits⟩ := Instruction.learns_nothing (hinside i hexecuted)
    rw [hlearns, hbranches] at hcore
    exact ⟨hresult hawaits, hcore.eq⟩

/-- An instruction that skips by the keypad goes on after itself, or one instruction later. -/
theorem pc_step_of_key_skip {m : Machine D K} {x : Nibble}
    (hnext : m.nextInstruction? = some (.skipIfHeld x) ∨
      m.nextInstruction? = some (.skipUnlessHeld x)) :
    m.step.machine.pc = m.pc + 2 ∨ m.step.machine.pc = m.pc + 4 := by
  have hskip (word : Opcode) (condition : Bool) (hruns : m.halted = false)
      (hfetch : m.memory.fetch? m.pc = some word)
      (hexecute : (m.afterFetch word).execute (.decode word) =
        done ((m.afterFetch word).skipIf condition)) :
      m.step.machine.pc = m.pc + 2 ∨ m.step.machine.pc = m.pc + 4 := by
    rw [step_of_execute_eq_ok hruns hfetch hexecute]
    cases condition with
    | false => exact .inl rfl
    | true => exact .inr (UInt16.add_assoc m.pc 2 2)
  rcases hnext with hnext | hnext
  all_goals
    obtain ⟨word, hruns, hfetch, hdecode⟩ := fetch_of_nextInstruction? hnext
    exact hskip word _ hruns hfetch (by rw [hdecode]; rfl)

/-- No step changes the configuration. -/
theorem config_step (m : Machine D K) : m.step.machine.config = m.config := by
  rcases m.executed?_step_cases with ⟨word, effect, -, hexecute, hmachine⟩ |
    ⟨-, pc, opcode, halted, hmachine⟩
  · rw [hmachine, (framed_execute hexecute).config_eq]
    rfl
  · rw [hmachine]

end Machine

/-! ## Histories in different environments -/

/-- Whether an event is one of the environment: a tick, or a change of the keypad. -/
def Event.isAmbient {K : Type} : Event K → Bool
  | .tick | .changeKeys _ => true
  | _ => false

/-- Two histories with the same loads and steps in the same order. Ticks and changes of the keypad
come anywhere in each. -/
inductive SameRequests {K : Type} : List (Event K) → List (Event K) → Prop
  | nil : SameRequests [] []
  | request {e : Event K} {es fs : List (Event K)} (he : e.isAmbient = false)
    (h : SameRequests es fs) : SameRequests (e :: es) (e :: fs)
  | ambientLeft {e : Event K} {es fs : List (Event K)} (he : e.isAmbient = true)
    (h : SameRequests es fs) : SameRequests (e :: es) fs
  | ambientRight {e : Event K} {es fs : List (Event K)} (he : e.isAmbient = true)
    (h : SameRequests es fs) : SameRequests es (e :: fs)

namespace Machine

variable {D K : Type} [Display D] [KeySource K] {m₁ m₂ : Machine D K} {e : Event K}

/-- What can be seen of a history without looking at the environment: what each load and each step
returns, and the core that it leaves. -/
def observations (m : Machine D K) : List (Event K) → List (Answer × Core)
  | [] => []
  | e :: es =>
    let later := (m.perform e).machine.observations es
    if e.isAmbient then later else ((m.perform e).result, (m.perform e).machine.core) :: later

/-- An event of the environment does not reach the core and executes nothing. -/
theorem perform_of_isAmbient (he : e.isAmbient = true) (m : Machine D K) :
    (m.perform e).machine.core = m.core ∧ m.executed? e = none := by
  cases e with
  | tick | changeKeys => exact ⟨rfl, rfl⟩
  | load | loadFile | step => cases he

omit [KeySource K] in
/-- Loading has one outcome on machines with one core. -/
theorem load_eq_of_core_eq (h : m₁.core = m₂.core) (program : List UInt8) :
    (m₁.load program).result = (m₂.load program).result ∧
      (m₁.load program).machine.core = (m₂.load program).machine.core := by
  obtain ⟨display, keypad, seed, stack, timers, generator, -, rfl⟩ := exists_of_core_eq h
  rw [load_eq, load_eq]
  dsimp only
  cases (Memory.create m₁.config.fontBase).load program with
  | error fault => exact ⟨rfl, h⟩
  | ok memory => exact ⟨rfl, rfl⟩

/-- An event that executes none of the six instructions has one outcome on machines with one core.
-/
theorem perform_eq_of_core_eq (h : m₁.core = m₂.core)
    (hinside : ∀ i, m₁.executed? e = some i → i.looksOutside = false) :
    (m₁.perform e).result = (m₂.perform e).result ∧
      (m₁.perform e).machine.core = (m₂.perform e).machine.core := by
  have hload (program : List UInt8) := load_eq_of_core_eq h program
  match e with
  | .load program | .loadFile _ (some program) =>
    exact ⟨congrArg Answer.loaded (hload program).1, (hload program).2⟩
  | .loadFile _ none | .tick | .changeKeys _ => exact ⟨rfl, h⟩
  | .step =>
    obtain ⟨hresult, hcore⟩ := step_eq_of_core_eq h hinside
    exact ⟨congrArg Answer.stepped hresult, hcore⟩

/-- Histories with the same requests, of which one executes none of the six instructions, look the
same on machines with one core, whatever the environments do. -/
theorem observations_eq {es fs : List (Event K)} (hsame : SameRequests es fs)
    (h : m₁.core = m₂.core) (hinside : ∀ i ∈ m₁.executed es, i.looksOutside = false) :
    m₁.observations es = m₂.observations fs ∧ (m₁.after es).core = (m₂.after fs).core := by
  induction hsame generalizing m₁ m₂ with
  | nil => exact ⟨rfl, h⟩
  | @request e es fs he _ ih =>
    rw [executed] at hinside
    obtain ⟨hresult, hcore⟩ := perform_eq_of_core_eq h fun i hi =>
      hinside i (List.mem_append_left _ (Option.mem_toList.2 hi))
    obtain ⟨hlater, hafter⟩ := ih hcore fun i hi => hinside i (List.mem_append_right _ hi)
    refine ⟨?_, hafter⟩
    simp only [observations, he, hresult, hcore, hlater]
  | @ambientLeft e es fs he _ ih =>
    obtain ⟨hcore, hexecuted⟩ := m₁.perform_of_isAmbient he
    rw [executed, hexecuted] at hinside
    obtain ⟨hlater, hafter⟩ := ih (hcore.trans h) hinside
    refine ⟨?_, hafter⟩
    rw [observations, if_pos he, hlater]
  | @ambientRight e es fs he _ ih =>
    obtain ⟨hcore, -⟩ := m₂.perform_of_isAmbient he
    obtain ⟨hlater, hafter⟩ := ih (h.trans hcore.symm) hinside
    refine ⟨?_, hafter⟩
    rw [observations, if_pos he, hlater]

/-- **What the environment can leak.** Two machines have one core, and may differ in everything
else. They execute the same instruction next, or none. If it is none of the six that look at the
environment, their steps have the same result and leave one core again. Otherwise the cores differ
at most in the flag after a draw, in the target register after a random byte, a look at the delay
timer or a wait for a key, and in the program counter after an instruction that asks the keypad; a
skip goes on after the instruction, or one instruction later. The results differ at most if the
instruction waits for a key. So in a history that executes none of the six, and in any other history
with the same loads and steps, all results and all cores are the same, whatever the displays, the
timers, the keys and the random bytes are and however ticks and changes of the keypad come in. -/
theorem environment_leaks (h : m₁.core = m₂.core) :
    m₁.nextInstruction? = m₂.nextInstruction? ∧
    (m₁.step.machine.config = m₁.config ∧ m₂.step.machine.config = m₂.config) ∧
    ((∀ i, m₁.nextInstruction? = some i → i.looksOutside = false) →
      m₁.step.result = m₂.step.result ∧ m₁.step.machine.core = m₂.step.machine.core) ∧
    (∀ i, m₁.nextInstruction? = some i →
      m₁.step.machine.core.SameBut m₂.step.machine.core i.learnsIn i.branchesOnKeys ∧
      (i.isAwaitKey = false → m₁.step.result = m₂.step.result)) ∧
    (∀ x, m₁.nextInstruction? = some (.skipIfHeld x) ∨
        m₁.nextInstruction? = some (.skipUnlessHeld x) →
      (m₁.step.machine.pc = m₁.pc + 2 ∨ m₁.step.machine.pc = m₁.pc + 4) ∧
      (m₂.step.machine.pc = m₁.pc + 2 ∨ m₂.step.machine.pc = m₁.pc + 4)) ∧
    (∀ es fs, SameRequests es fs → (∀ i ∈ m₁.executed es, i.looksOutside = false) →
      m₁.observations es = m₂.observations fs ∧ (m₁.after es).core = (m₂.after fs).core) := by
  have hnext := nextInstruction?_eq_of_core_eq h
  have hpc : m₁.pc = m₂.pc := congrArg Core.pc h
  refine ⟨hnext, ⟨m₁.config_step, m₂.config_step⟩, fun hinside => ?_,
    fun i hi => step_sameBut_of_core_eq h hi, fun x hx => ⟨pc_step_of_key_skip hx, ?_⟩,
    fun es fs hsame => observations_eq hsame h⟩
  · exact step_eq_of_core_eq h fun i hi => hinside i (nextInstruction?_of_executed? hi)
  · rw [hpc]
    rw [hnext] at hx
    exact pc_step_of_key_skip hx

/-- Two machines with different seeds and displays: in one a key is held, and ticks come at other
times. Their programs look the same until one of them asks for the key. -/
theorem environment_leaks_key :
    ∃ (m₁ m₂ : Machine FrameBuffer Keypad) (es fs : List (Event Keypad)),
      m₁.config.seed ≠ m₂.config.seed ∧ m₁.core = m₂.core ∧ SameRequests es fs ∧
      (∀ i ∈ m₁.executed es, i.looksOutside = false) ∧ m₁.observations es = m₂.observations fs ∧
      (m₁.after es).nextInstruction? = some (.skipIfHeld 0) ∧
      (m₁.after es).step.machine.pc ≠ (m₂.after fs).step.machine.pc ∧
      (m₁.after es).step.result = (m₂.after fs).step.result ∧
      (m₁.after es).step.machine.registers.get 0 = (m₂.after fs).step.machine.registers.get 0 := by
  let key : KeyStream.Key := Vector.replicate 8 0
  let program : Event Keypad := .load [0x60, 0x05, 0xF0, 0x15, 0xE0, 0x9E]
  let dark : FrameBuffer := Bitmap.blank 64 32
  let lit : FrameBuffer := Display.toggle dark 3 4
  let m₁ : Machine FrameBuffer Keypad := create ⟨.vy, 0, some 8⟩ dark .released key
  let m₂ : Machine FrameBuffer Keypad := create ⟨.vy, 0, some 9⟩ lit .released key
  let es : List (Event Keypad) := [program, .step, .tick, .step]
  let fs : List (Event Keypad) := [program, .changeKeys (·.press 5), .step, .step, .tick, .tick]
  have hseed : m₁.config.seed ≠ m₂.config.seed := by decide
  have hcore : m₁.core = m₂.core :=
    core_create_eq rfl rfl dark lit Keypad.released Keypad.released key key
  have hsame : SameRequests es fs :=
    .request rfl (.ambientRight rfl (.request rfl (.ambientLeft rfl
      (.request rfl (.ambientRight rfl (.ambientRight rfl .nil))))))
  have hrun : m₁.executed es = [.setConstant 0 5, .setDelay 0] ∧
      (m₁.after es).nextInstruction? = some (.skipIfHeld 0) ∧
      (m₁.after es).step.machine.pc ≠ (m₂.after fs).step.machine.pc := by decide +kernel
  obtain ⟨hexecuted, hnext, hpc⟩ := hrun
  -- from here on only the facts about the machines count, not how they came about
  clear_value m₁ m₂
  have hinside : ∀ i ∈ m₁.executed es, i.looksOutside = false := by
    rw [hexecuted]
    decide
  obtain ⟨-, -, -, -, -, hruns⟩ := environment_leaks hcore
  obtain ⟨hobservations, hafter⟩ := hruns es fs hsame hinside
  obtain ⟨-, -, -, hstep, -, -⟩ := environment_leaks hafter
  obtain ⟨hsameBut, hresult⟩ := hstep _ hnext
  exact ⟨m₁, m₂, es, fs, hseed, hcore, hsame, hinside, hobservations, hnext, hpc, hresult rfl,
    hsameBut.register_eq 0 List.not_mem_nil⟩

end Machine

end Chip8
