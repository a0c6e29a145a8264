import Chip8.Display.Bitmap
import Chip8.Proofs.Environment
import Mathlib.Logic.Function.Iterate

/-!
# Ticks and keys between instructions

Between two steps a host lets the timers tick and changes the keypad as it likes. What such an event
makes of a machine is an adjustment of its keys and timers (`Machine.adjust`), and an instruction
that looks at neither of them commutes with every adjustment (`execute_adjust`), also when it fails,
and also if the machine has halted or finds no instruction.

For whole histories this means that ticks can be moved: with all ticks put first, a history that
executes no instruction of the timers leaves the same machine and tells the host the same
(`after_eq_ticks_first`). And a timer reads what it was last set to, less the ticks since then
(`count_of_lastSet`), however these ticks lie between the steps.
-/

namespace Chip8

/-! ## The instructions and events of the timers -/

namespace Instruction

/-- Whether an instruction reads or sets a timer. -/
def usesTimers : Instruction → Bool
  | getDelay _ | setDelay _ | setSound _ => true
  | _ => false

end Instruction

/-- Whether an event is a tick. -/
def Event.isTick {K : Type} : Event K → Bool
  | .tick => true
  | _ => false

/-- The number of ticks among some events. -/
def tickCount {K : Type} (events : List (Event K)) : Nat := events.countP Event.isTick

/-- The events without the ticks, in their order. -/
def withoutTicks {K : Type} (events : List (Event K)) : List (Event K) :=
  events.filter fun e => !e.isTick

/-- The two timers. -/
inductive TimerName where
  | delay
  | sound

/-- The timer of a name. -/
def Timers.get (t : Timers) : TimerName → Timer
  | .delay => t.delay
  | .sound => t.sound

/-- The instruction that sets a timer from a register. -/
def TimerName.setter : TimerName → Nibble → Instruction
  | delay => .setDelay
  | sound => .setSound

section

variable {K : Type} {e : Event K} {events : List (Event K)}

theorem Event.eq_tick_of_isTick (h : e.isTick = true) : e = .tick := by
  cases e with
  | tick => rfl
  | load | loadFile | step | changeKeys => cases h

theorem tickCount_cons (e : Event K) (events : List (Event K)) :
    tickCount (e :: events) = tickCount [e] + tickCount events := by
  rw [tickCount, tickCount, tickCount, ← List.countP_append, List.singleton_append]

theorem tickCount_cons_tick : tickCount (.tick :: events) = tickCount events + 1 :=
  List.countP_cons_of_pos rfl

theorem tickCount_cons_of_ne (h : e.isTick = false) : tickCount (e :: events) = tickCount events :=
  List.countP_cons_of_neg (by simp [h])

theorem withoutTicks_cons_of_ne (h : e.isTick = false) :
    withoutTicks (e :: events) = e :: withoutTicks events :=
  List.filter_cons_of_pos (by simp [h])

end

/-- The same effect, but on another machine. -/
def Effect.onMachine {D K : Type} (f : Machine D K → Machine D K) (effect : Effect D K) :
    Effect D K :=
  { effect with machine := f effect.machine }

/-- The same reply, but of another machine. -/
def Reply.onMachine {D K α : Type} (f : Machine D K → Machine D K) (r : Reply D K α) :
    Reply D K α :=
  { r with machine := f r.machine }

namespace Machine

variable {D K : Type} {m : Machine D K} {keys : K → K} {count : Timers → Timers}

/-! ## Adjusting keys and timers -/

/-- The machine with its keys and its timers adjusted. -/
def adjust (m : Machine D K) (keys : K → K) (count : Timers → Timers) : Machine D K :=
  { m with keypad := keys m.keypad, timers := count m.timers }

/-- Some ticks adjust the timers and not the keys. -/
theorem tick_iterate_eq (n : Nat) :
    (tick^[n] : Machine D K → Machine D K) = (adjust · id Timers.tick^[n]) := by
  funext m
  induction n with
  | zero => rfl
  | succ n ih =>
    rw [Function.iterate_succ_apply', ih, Function.iterate_succ']
    rfl

/-- A skip takes no notice of keys and timers. -/
theorem skipIf_adjust (condition : Bool) :
    (m.adjust keys count).skipIf condition = (m.skipIf condition).adjust keys count := by
  cases condition <;> rfl

/-- A store takes no notice of keys and timers. -/
theorem store_adjust (bytes : List UInt8) :
    (m.adjust keys count).store bytes =
      (m.store bytes).map (Effect.onMachine (adjust · keys count)) := by
  rw [store, store]
  simp only [adjust]
  cases m.memory.write m.index.toNat bytes <;> rfl

variable [Display D] [KeySource K] {i : Instruction}

/-- An instruction commutes with an adjustment of what it does not look at. -/
theorem execute_adjust (hkeys : i.branchesOnKeys = true → keys = id)
    (htimers : i.usesTimers = true → count = id) :
    (m.adjust keys count).execute i =
      (m.execute i).map (Effect.onMachine (adjust · keys count)) := by
  cases i
  -- the keypad, or the timers, are as they were for the instructions that look at them
  case skipIfHeld | skipUnlessHeld =>
    obtain rfl := hkeys rfl
    exact congrArg done (skipIf_adjust _)
  case awaitKey =>
    obtain rfl := hkeys rfl
    simp only [execute, adjust, id]
    cases KeySource.lowestHeld? m.keypad <;> rfl
  case getDelay | setDelay | setSound =>
    obtain rfl := htimers rfl
    rfl
  -- then those that can fail, which look at the stack and the memory
  case ret =>
    simp only [execute, adjust]
    cases m.stack.pop? <;> rfl
  case call =>
    simp only [execute, adjust]
    cases m.stack.push? m.pc <;> rfl
  case draw x y n =>
    simp only [execute, adjust]
    cases m.memory.read m.index.toNat n.val <;> rfl
  case loadRegisters x =>
    simp only [execute, adjust]
    cases m.memory.read m.index.toNat (x.val + 1) <;> rfl
  case storeDecimal | storeRegisters => exact store_adjust _
  case skipIfConstant | skipUnlessConstant | skipIfEqual | skipUnlessEqual =>
    exact congrArg done (skipIf_adjust _)
  all_goals rfl

/-- A step commutes with an adjustment of what its instruction does not look at. -/
theorem step_adjust
    (hkeys : ∀ i, m.nextInstruction? = some i → i.branchesOnKeys = true → keys = id)
    (htimers : ∀ i, m.nextInstruction? = some i → i.usesTimers = true → count = id) :
    (m.adjust keys count).step = m.step.onMachine (adjust · keys count) := by
  rcases m.step_cases with ⟨hhalted, hstep⟩ | ⟨hruns, hnone, hstep⟩ | ⟨word, effect, hruns, hfetch,
    hexecute, hstep⟩ | ⟨word, fault, hruns, hfetch, hexecute, hstep⟩
  · have hadjusted : (m.adjust keys count).step = _ := step_of_halted hhalted
    rw [hstep, hadjusted]
    rfl
  · have hadjusted : (m.adjust keys count).step = _ := step_of_fetch_eq_none hruns hnone
    rw [hstep, hadjusted]
    rfl
  all_goals
    have hnext := nextInstruction?_of_fetch hruns hfetch
    have hcommutes : ((m.adjust keys count).afterFetch word).execute (.decode word) = _ :=
      execute_adjust (m := m.afterFetch word) (hkeys _ hnext) (htimers _ hnext)
    rw [hexecute] at hcommutes
  · have hadjusted : (m.adjust keys count).step = _ := step_of_execute_eq_ok hruns hfetch hcommutes
    rw [hstep, hadjusted]
    rfl
  · have hadjusted : (m.adjust keys count).step = _ :=
      step_of_execute_eq_error hruns hfetch hcommutes
    rw [hstep, hadjusted]
    rfl

/-- A step that meets no instruction of the timers takes no notice of them. -/
theorem step_adjust_timers (count : Timers → Timers)
    (htimers : ∀ i, m.nextInstruction? = some i → i.usesTimers = false) :
    (m.adjust id count).step = m.step.onMachine (adjust · id count) := by
  apply step_adjust
  · intro _ _ _
    rfl
  · intro i hnext hi
    rw [htimers i hnext] at hi
    cases hi

/-- A step that meets no instruction that looks at the keypad takes no notice of the keys. -/
theorem step_adjust_keys (keys : K → K)
    (hkeys : ∀ i, m.nextInstruction? = some i → i.branchesOnKeys = false) :
    (m.adjust keys id).step = m.step.onMachine (adjust · keys id) := by
  apply step_adjust
  · intro i hnext hi
    rw [hkeys i hnext] at hi
    cases hi
  · intro _ _ _
    rfl

omit [KeySource K] in
/-- Loading takes no notice of keys and timers, and leaves the timers at zero. -/
theorem load_adjust (hcount : count .zero = .zero) (program : List UInt8) :
    (m.adjust keys count).load program = (m.load program).onMachine (adjust · keys count) := by
  simp only [load_eq, adjust, Reply.onMachine]
  cases (Memory.create m.config.fontBase).load program with
  | error fault => rfl
  | ok memory => simp only [restart, hcount]

/-! ## Ticks in a history -/

variable {e : Event K}

/-- An instruction that uses the timers succeeds on every machine. -/
theorem executed?_of_usesTimers (hnext : m.nextInstruction? = some i)
    (hi : i.usesTimers = true) : m.executed? .step = some i := by
  obtain ⟨word, hruns, hfetch, rfl⟩ := fetch_of_nextInstruction? hnext
  obtain ⟨effect, hexecute⟩ :
      ∃ effect, (m.afterFetch word).execute (.decode word) = .ok effect := by
    generalize Instruction.decode word = i at hi
    cases i
    case getDelay | setDelay | setSound => exact ⟨_, rfl⟩
    all_goals cases hi
  exact executed?_step hruns hfetch (step_of_execute_eq_ok hruns hfetch hexecute)

/-- A step that executes no instruction of the timers does not meet one. -/
theorem usesTimers_of_executed? (h : ∀ i ∈ m.executed? .step, i.usesTimers = false)
    (hnext : m.nextInstruction? = some i) : i.usesTimers = false := by
  by_contra hi
  rw [Bool.not_eq_false] at hi
  have hnot := h i (executed?_of_usesTimers hnext hi)
  rw [hi] at hnot
  cases hnot

/-- Ticks commute with every event that meets no instruction of the timers. -/
theorem perform_tick_iterate (n : Nat)
    (htimers : e = .step → ∀ i, m.nextInstruction? = some i → i.usesTimers = false) :
    (tick^[n] m).perform e = (m.perform e).onMachine tick^[n] := by
  have hzero : Timers.tick^[n] .zero = .zero := Function.iterate_fixed (by decide) n
  rw [tick_iterate_eq]
  cases e with
  | load program => exact congrArg (Reply.map Answer.loaded) (load_adjust hzero program)
  | loadFile path contents =>
    cases contents with
    | none => rfl
    | some program => exact congrArg (Reply.map Answer.loaded) (load_adjust hzero program)
  | step =>
    exact congrArg (Reply.map Answer.stepped) (step_adjust_timers Timers.tick^[n] (htimers rfl))
  | tick =>
    have hcommutes : (Timers.tick^[n] m.timers).tick = Timers.tick^[n] m.timers.tick :=
      (Function.Commute.iterate_self Timers.tick n).symm m.timers
    simp only [perform, tick, adjust, Reply.onMachine, hcommutes, id]
  | changeKeys change => rfl

omit [Display D] [KeySource K] in
/-- Ticks change nothing of what is executed next. -/
theorem nextInstruction?_tick_iterate (n : Nat) :
    (tick^[n] m).nextInstruction? = m.nextInstruction? := by
  rw [tick_iterate_eq]
  rfl

/-- An event that meets no instruction of the timers executes the same after some ticks. -/
theorem executed?_tick_iterate (n : Nat)
    (htimers : e = .step → ∀ i, m.nextInstruction? = some i → i.usesTimers = false) :
    (tick^[n] m).executed? e = m.executed? e := by
  cases e with
  | step =>
    have hresult : (tick^[n] m).step.result = m.step.result :=
      Answer.stepped.inj (congrArg Reply.result (perform_tick_iterate n htimers))
    rw [executed?, executed?, hresult, nextInstruction?_tick_iterate]
  | load | loadFile | tick | changeKeys => rfl

/-- What a host is told in a history by all events but the ticks: the result of each of them, and
its messages. -/
def answers (m : Machine D K) : List (Event K) → List (Answer × List Message)
  | [] => []
  | e :: es =>
    let later := (m.perform e).machine.answers es
    if e.isTick then later else ((m.perform e).result, (m.perform e).messages) :: later

/-- With all ticks put first, a history that executes no instruction of the timers leaves the same
machine, and tells the host and executes the same. It is enough that one of the two histories
executes no such instruction. -/
theorem after_eq_ticks_first (events : List (Event K)) (m : Machine D K)
    (h : (∀ i ∈ m.executed events, i.usesTimers = false) ∨
      ∀ i ∈ (tick^[tickCount events] m).executed (withoutTicks events), i.usesTimers = false) :
    let first := tick^[tickCount events] m
    m.after events = first.after (withoutTicks events) ∧
      m.answers events = first.answers (withoutTicks events) ∧
      m.executed events = first.executed (withoutTicks events) := by
  induction events generalizing m with
  | nil => exact ⟨rfl, rfl, rfl⟩
  | cons e events ih =>
    by_cases htick : e.isTick = true
    · -- the first tick stays where it is, and the others come to stand after it
      obtain rfl := Event.eq_tick_of_isTick htick
      rw [tickCount_cons_tick, Function.iterate_succ_apply] at h ⊢
      exact ih m.tick h
    · rw [Bool.not_eq_true] at htick
      rw [tickCount_cons_of_ne htick, withoutTicks_cons_of_ne htick] at h ⊢
      simp only [executed, List.forall_mem_append, Option.mem_toList] at h
      have hmeets : e = .step → ∀ i, m.nextInstruction? = some i → i.usesTimers = false := by
        rintro rfl i hnext
        rcases h with ⟨hfirst, -⟩ | ⟨hfirst, -⟩
        · exact usesTimers_of_executed? hfirst hnext
        · rw [← nextInstruction?_tick_iterate (tickCount events)] at hnext
          exact usesTimers_of_executed? hfirst hnext
      have hperform := perform_tick_iterate (tickCount events) hmeets
      have hlater := h.imp And.right And.right
      rw [hperform] at hlater
      obtain ⟨hafter, hanswers, hexecuted⟩ := ih (m.perform e).machine hlater
      refine ⟨?_, ?_, ?_⟩
      · rw [after_cons, after_cons, hperform]
        exact hafter
      · simp only [answers, htick, hperform, hanswers, Reply.onMachine]
      · rw [executed, executed, executed?_tick_iterate _ hmeets, hperform, hexecuted]
        rfl

/-- Ticks can be moved: histories that differ only in where the ticks stand leave the same machine
and tell the host the same, if one of them executes no instruction of the timers. -/
theorem after_eq_of_withoutTicks_eq {es fs : List (Event K)} (m : Machine D K)
    (hothers : withoutTicks es = withoutTicks fs) (hticks : tickCount es = tickCount fs)
    (h : ∀ i ∈ m.executed es, i.usesTimers = false) :
    m.after es = m.after fs ∧ m.answers es = m.answers fs := by
  obtain ⟨hafter, hanswers, hexecuted⟩ := after_eq_ticks_first es m (.inl h)
  rw [hothers, hticks] at hafter hanswers hexecuted
  obtain ⟨hafter', hanswers', -⟩ := after_eq_ticks_first fs m (.inr (hexecuted ▸ h))
  exact ⟨hafter.trans hafter'.symm, hanswers.trans hanswers'.symm⟩

/-! ## What a timer was last set to -/

variable {name : TimerName}

/-- The values that an event sets a timer to: a program starts with both timers at zero, and an
instruction sets one of them from a register. -/
inductive Sets (m : Machine D K) (name : TimerName) : Event K → UInt8 → Prop
  | started {e : Event K} (hprogram : e.program?.isSome = true) : Sets m name e 0
  | executed {x : Nibble} (hexecuted : m.executed? .step = some (name.setter x)) :
    Sets m name .step (m.registers.get x)

/-- A history that sets a timer at no event: it starts no program, and executes no instruction that
sets the timer. -/
structure NeverSets (m : Machine D K) (name : TimerName) (events : List (Event K)) : Prop where
  program : ∀ e ∈ events, e.program? = none
  setter : ∀ i ∈ m.executed events, ∀ x, i ≠ name.setter x

/-- To what a timer was last set in the history of a new machine, and how many ticks came after
that. A new machine has both timers at zero. -/
inductive LastSet (m : Machine D K) (name : TimerName) (events : List (Event K)) :
    UInt8 → Nat → Prop
  | never (hnever : m.NeverSets name events) : LastSet m name events 0 (tickCount events)
  | set {es fs : List (Event K)} {e : Event K} {v : UInt8} (hevents : events = es ++ e :: fs)
    (hsets : (m.after es).Sets name e v) (hrest : (m.after (es ++ [e])).NeverSets name fs) :
    LastSet m name events v (tickCount fs)

/-- The instruction that sets a timer puts the value of its register there. -/
theorem timer_execute_setter {x : Nibble} {effect : Effect D K}
    (h : m.execute (name.setter x) = .ok effect) :
    (effect.machine.timers.get name).count = m.registers.get x := by
  cases name <;> cases h <;> rfl

/-- Every other instruction leaves a timer alone. -/
theorem timer_execute_of_ne {effect : Effect D K} (hne : ∀ x, i ≠ name.setter x)
    (h : m.execute i = .ok effect) : effect.machine.timers.get name = m.timers.get name := by
  have hframed := framed_execute h
  cases name with
  | delay =>
    apply hframed.delay_eq
    cases i
    case setDelay x => exact absurd rfl (hne x)
    all_goals rfl
  | sound =>
    apply hframed.sound_eq
    cases i
    case setSound x => exact absurd rfl (hne x)
    all_goals rfl

/-- A timer holds the value that an event sets it to. -/
theorem count_of_sets {v : UInt8} (h : m.Sets name e v) :
    ((m.perform e).machine.timers.get name).count = v := by
  cases h with
  | started hprogram =>
    obtain ⟨program, hsome⟩ := Option.isSome_iff_exists.1 hprogram
    obtain ⟨memory, -, hmachine⟩ := perform_of_program? hsome m
    rw [hmachine]
    cases name <;> rfl
  | @executed x hexecuted =>
    show (m.step.machine.timers.get name).count = m.registers.get x
    rcases m.executed?_step_cases with ⟨word, effect, hword, hexecute, hmachine⟩ | ⟨hnone, -⟩
    · rw [hexecuted] at hword
      rw [← Option.some.inj hword] at hexecute
      rw [hmachine, timer_execute_setter hexecute]
      rfl
    · rw [hexecuted] at hnone
      cases hnone

/-- A timer that an event does not set counts down if the event is a tick, and else stays. -/
theorem count_of_not_sets (h : ∀ v, ¬ m.Sets name e v) :
    ((m.perform e).machine.timers.get name).count.toNat =
      (m.timers.get name).count.toNat - tickCount [e] := by
  cases hprogram : e.program? with
  | some program => exact absurd (.started (by rw [hprogram]; rfl)) (h 0)
  | none =>
    by_cases htick : e.isTick = true
    · obtain rfl := Event.eq_tick_of_isTick htick
      show (m.timers.tick.get name).count.toNat = (m.timers.get name).count.toNat - 1
      cases name <;> exact Timer.toNat_count_tick _
    · have hzero : tickCount [e] = 0 := tickCount_cons_of_ne (by simpa using htick)
      rw [hzero, Nat.sub_zero]
      rcases perform_of_program?_eq_none hprogram m with rfl | rfl | ⟨change, rfl⟩ | ⟨-, hsame⟩
      · show (m.step.machine.timers.get name).count.toNat = _
        rcases m.executed?_step_cases with ⟨word, effect, hexecuted, hexecute, hmachine⟩ |
          ⟨-, pc, opcode, halted, hmachine⟩
        · have hne : ∀ x, Instruction.decode word ≠ name.setter x := by
            intro x hx
            rw [hx] at hexecuted
            exact h _ (.executed hexecuted)
          rw [hmachine, timer_execute_of_ne hne hexecute]
          rfl
        · rw [hmachine]
      · exact absurd rfl htick
      · rfl
      · rw [hsame]

/-- A history sets a timer at no event if the first event does not set it, and those after it never
do. -/
theorem neverSets_cons_iff {events : List (Event K)} :
    m.NeverSets name (e :: events) ↔
      (∀ v, ¬ m.Sets name e v) ∧ (m.perform e).machine.NeverSets name events := by
  constructor
  · rintro ⟨hprogram, hsetter⟩
    simp only [executed, List.forall_mem_append, List.forall_mem_cons, Option.mem_toList] at *
    refine ⟨fun v hsets => ?_, hprogram.2, hsetter.2⟩
    cases hsets with
    | started hstarted =>
      rw [hprogram.1] at hstarted
      cases hstarted
    | executed hset => exact hsetter.1 _ hset _ rfl
  · rintro ⟨hfirst, hprogram, hsetter⟩
    constructor
    · refine List.forall_mem_cons.2 ⟨?_, hprogram⟩
      rw [← Option.not_isSome_iff_eq_none]
      exact fun hstarted => hfirst 0 (.started hstarted)
    · refine List.forall_mem_append.2 ⟨fun i hi x hx => ?_, hsetter⟩
      rw [Option.mem_toList, hx] at hi
      cases e with
      | step => exact hfirst _ (.executed hi)
      | load | loadFile | tick | changeKeys => cases hi

/-- A timer that no event of a history sets counts down with its ticks. -/
theorem count_after (events : List (Event K)) (h : m.NeverSets name events) :
    ((m.after events).timers.get name).count.toNat =
      (m.timers.get name).count.toNat - tickCount events := by
  induction events generalizing m with
  | nil => rfl
  | cons e events ih =>
    obtain ⟨hfirst, hrest⟩ := neverSets_cons_iff.1 h
    rw [after_cons, ih hrest, count_of_not_sets hfirst, Nat.sub_sub, ← tickCount_cons]

/-- A timer of a new machine reads what it was last set to, less the ticks since then. -/
theorem count_of_lastSet {events : List (Event K)} {v : UInt8} {n : Nat}
    (hzero : (m.timers.get name).count = 0) (h : m.LastSet name events v n) :
    ((m.after events).timers.get name).count.toNat = v.toNat - n := by
  cases h with
  | never hnever => rw [count_after events hnever, hzero]
  | @set es fs e v hevents hsets hrest =>
    rw [after_append, after_cons, after_nil] at hrest
    rw [hevents, after_append, after_cons, count_after fs hrest, count_of_sets hsets]

/-- A history sets a timer at no event, or there is a last event that sets it. -/
theorem neverSets_or_last (name : TimerName) (events : List (Event K)) (m : Machine D K) :
    m.NeverSets name events ∨ ∃ es e fs v, events = es ++ e :: fs ∧
      (m.after es).Sets name e v ∧ (m.after (es ++ [e])).NeverSets name fs := by
  induction events generalizing m with
  | nil => exact .inl ⟨nofun, nofun⟩
  | cons e events ih =>
    rcases ih (m.perform e).machine with hrest | ⟨es, last, fs, v, rfl, hsets, hrest⟩
    · by_cases hsets : ∃ v, m.Sets name e v
      · obtain ⟨v, hsets⟩ := hsets
        exact .inr ⟨[], e, events, v, rfl, hsets, hrest⟩
      · exact .inl (neverSets_cons_iff.2 ⟨not_exists.1 hsets, hrest⟩)
    · exact .inr ⟨e :: es, last, fs, v, rfl, hsets, hrest⟩

/-- In every history there is a value that a timer was last set to. -/
theorem exists_lastSet (m : Machine D K) (name : TimerName) (events : List (Event K)) :
    ∃ v n, m.LastSet name events v n := by
  rcases neverSets_or_last name events m with hnever | ⟨es, e, fs, v, hevents, hsets, hrest⟩
  · exact ⟨0, _, .never hnever⟩
  · exact ⟨v, _, .set hevents hsets hrest⟩

omit [Display D] [KeySource K] in
/-- The host makes a sound as long as the sound timer has ticks left. -/
theorem soundActive_iff (m : Machine D K) :
    m.soundActive = true ↔ 0 < (m.timers.get .sound).count.toNat := by
  have hzero : m.timers.sound.count = 0 ↔ m.timers.sound.count.toNat = 0 :=
    UInt8.toNat_inj.symm
  rw [Nat.pos_iff_ne_zero, ne_eq, Timers.get, ← hzero, soundActive, Timer.isRunning, bne_iff_ne]

/-- **Ticks and keys between instructions.** A tick and a step can change places, with the same
machine, result and messages, unless the step meets an instruction that uses the timers; this holds
of every machine, also of one that has halted, and of steps that fail. A change of the keypad and a
step can change places unless the step meets an instruction that looks at the keypad. So the ticks
of a history can be moved anywhere, if it executes no instruction of the timers. And in every
history of a new machine a timer reads what an instruction last set it to, or the zero of a start,
less the ticks since then, but not less than zero; the host makes a sound if this is positive for
the sound timer. -/
theorem host_events_commute :
    (∀ m : Machine D K, (∀ i, m.nextInstruction? = some i → i.usesTimers = false) →
      m.tick.step = m.step.onMachine tick) ∧
    (∀ (m : Machine D K) (change : K → K),
      (∀ i, m.nextInstruction? = some i → i.branchesOnKeys = false) →
        (m.changeKeys change).step = m.step.onMachine (changeKeys · change)) ∧
    (∀ (m : Machine D K) (es fs : List (Event K)), withoutTicks es = withoutTicks fs →
      tickCount es = tickCount fs → (∀ i ∈ m.executed es, i.usesTimers = false) →
        m.after es = m.after fs ∧ m.answers es = m.answers fs) ∧
    (∀ (config : Config) (display : D) (keypad : K) (entropy : KeyStream.Key)
      (events : List (Event K)) (name : TimerName),
      let new := create config display keypad entropy
      let m := new.after events
      (∃ v n, new.LastSet name events v n) ∧
      ∀ v n, new.LastSet name events v n →
        ((m.timers.get name).count.toNat : Int) = max 0 ((v.toNat : Int) - n) ∧
        (name = .sound → (m.soundActive = true ↔ 0 < max 0 ((v.toNat : Int) - n)))) := by
  refine ⟨fun m => step_adjust_timers Timers.tick, fun m => step_adjust_keys,
    fun m es fs hothers hticks => after_eq_of_withoutTicks_eq m hothers hticks, ?_⟩
  intro config display keypad entropy events name new m
  refine ⟨new.exists_lastSet name events, fun v n hlast => ?_⟩
  have hzero : (new.timers.get name).count = 0 := by cases name <;> rfl
  have hcount : ((m.timers.get name).count.toNat : Int) = max 0 ((v.toNat : Int) - n) := by
    have hnat : (m.timers.get name).count.toNat = v.toNat - n := count_of_lastSet hzero hlast
    omega
  refine ⟨hcount, ?_⟩
  rintro rfl
  rw [← hcount, soundActive_iff]
  exact Int.natCast_pos.symm

/-- A program that sets both timers to three, with four ticks among its steps: two of the ticks and
a key can be moved across an instruction, and the ticks that come after the timers were set have
left one on each of them. -/
theorem host_events_commute_two_ticks :
    ∃ (config : Config) (key : KeyStream.Key) (events : List (Event Keypad)),
      let new : Machine FrameBuffer Keypad := create config (Bitmap.blank 64 32) .released key
      let m := new.after events
      m.nextInstruction? = some (.setConstant 2 8) ∧
      m.tick.step = m.step.onMachine tick ∧
      (m.changeKeys (·.press 5)).step = m.step.onMachine (changeKeys · (·.press 5)) ∧
      m.after [.tick, .step, .tick] = m.after [.step, .tick, .tick] ∧
      new.LastSet .sound events 3 2 ∧
      ((m.timers.get .sound).count.toNat : Int) = 1 ∧ m.soundActive = true := by
  let config : Config := ⟨.vy, 0, some 8⟩
  let key : KeyStream.Key := Vector.replicate 8 0
  let setting : List (Event Keypad) :=
    [.load [0x60, 0x03, 0xF0, 0x15, 0xF0, 0x18, 0x61, 0x07, 0x62, 0x08], .step, .tick, .step]
  let later : List (Event Keypad) := [.tick, .step, .tick]
  let new : Machine FrameBuffer Keypad := create config (Bitmap.blank 64 32) .released key
  have hrun : (new.after setting).executed? .step = some (.setSound 0) ∧
      (new.after setting).registers.get 0 = 3 ∧
      (new.after (setting ++ [.step])).executed later = [.setConstant 1 7] ∧
      (new.after (setting ++ .step :: later)).nextInstruction? = some (.setConstant 2 8) ∧
      (new.after (setting ++ .step :: later)).executed [.tick, .step, .tick] =
        [.setConstant 2 8] := by decide +kernel
  obtain ⟨hset, hthree, hlater, hnext, hmoved⟩ := hrun
  have hlast : new.LastSet .sound (setting ++ .step :: later) 3 2 := by
    apply LastSet.set rfl
    · rw [← hthree]
      exact .executed hset
    · constructor
      · simp [later, Event.program?]
      · simp [hlater, TimerName.setter]
  obtain ⟨htick, hkeys, hmove, htimer⟩ := host_events_commute (D := FrameBuffer) (K := Keypad)
  obtain ⟨-, hcount⟩ := htimer config (Bitmap.blank 64 32) .released key (setting ++ .step :: later)
    .sound
  obtain ⟨hone, hsound⟩ := hcount 3 2 hlast
  have hquiet : ∀ i, (new.after (setting ++ .step :: later)).nextInstruction? = some i →
      i.usesTimers = false ∧ i.branchesOnKeys = false := by
    intro i hi
    rw [hnext] at hi
    cases hi
    exact ⟨rfl, rfl⟩
  have hmoves := hmove (new.after (setting ++ .step :: later)) [.tick, .step, .tick]
    [.step, .tick, .tick] rfl rfl (by simp [hmoved, Instruction.usesTimers])
  exact ⟨config, key, setting ++ .step :: later, hnext, htick _ fun i hi => (hquiet i hi).1,
    hkeys _ _ fun i hi => (hquiet i hi).2, hmoves.1, hlast, hone, (hsound rfl).2 (by decide)⟩

end Machine

end Chip8
