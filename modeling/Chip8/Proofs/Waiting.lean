import Chip8.Display.Bitmap
import Chip8.Proofs.Interleaving

/-!
# Waiting for a key

The instruction that waits for a key takes the program counter back if no key is held, so that the
next step executes it again. Such a step records the word and changes nothing else
(`AwaitsKey.step_of_released`), and the machine awaits a key as before. By induction over a history,
whatever ticks and changes of the keypad lie between the steps, the machine is where it was
(`AwaitsKey.after`) until a step finds a key held. That step goes on with the lowest one
(`AwaitsKey.step_of_held`).
-/

namespace Chip8

/-- Whether an event is a step. -/
def Event.isStep {K : Type} : Event K → Bool
  | .step => true
  | _ => false

/-- What an event makes of the keypad. -/
def Event.change {K : Type} : Event K → K → K
  | .changeKeys change => change
  | _ => id

/-- A keypad after what some events make of it. -/
def keysAfter {K : Type} (keypad : K) (events : List (Event K)) : K :=
  events.foldl (fun keypad e => e.change keypad) keypad

namespace Machine

variable {D K : Type} {m : Machine D K} {word : Opcode} {x : Nibble}

/-- A machine whose next instruction waits for a key. -/
structure AwaitsKey (m : Machine D K) (word : Opcode) (x : Nibble) : Prop where
  runs : m.halted = false
  fetches : m.memory.fetch? m.pc = some word
  awaits : .decode word = Instruction.awaitKey x

variable [Display D] [KeySource K]

/-! ## One step -/

/-- A step that finds no key held leaves the machine waiting. -/
theorem AwaitsKey.step_of_released (h : m.AwaitsKey word x)
    (hreleased : KeySource.lowestHeld? m.keypad = none) :
    m.step = ⟨{ m with opcode := word }, .ok .awaitingKey,
      [.fetched m.pc word, .awaitingKey x]⟩ := by
  have hexecute : (m.afterFetch word).execute (.decode word) =
      .ok ⟨{ m with opcode := word }, .awaitingKey, [.awaitingKey x]⟩ := by
    simp only [h.awaits, execute, afterFetch, hreleased, Address.previous_next]
  exact step_of_execute_eq_ok h.runs h.fetches hexecute

/-- A step that finds a key held puts the lowest one into the register and goes on. -/
theorem AwaitsKey.step_of_held (h : m.AwaitsKey word x) {key : UInt8}
    (hheld : KeySource.lowestHeld? m.keypad = some key) :
    m.step = ⟨{ m with
      opcode := word
      pc := m.pc.next
      registers := m.registers.set x key }, .ok .executed, [.fetched m.pc word]⟩ := by
  have hexecute : (m.afterFetch word).execute (.decode word) =
      done ((m.afterFetch word).setRegister x key) := by
    simp only [h.awaits, execute, afterFetch, hheld]
  exact step_of_execute_eq_ok h.runs h.fetches hexecute

/-- An instruction waits only if it waits for a key and none is held. -/
theorem awaitKey_of_outcome {i : Instruction} {effect : Effect D K}
    (h : m.execute i = .ok effect) (hwaits : effect.outcome = .awaitingKey) :
    ∃ x, i = .awaitKey x ∧ KeySource.lowestHeld? m.keypad = none := by
  cases execute_change h with
  | waited x =>
    obtain ⟨key, -, heffect⟩ | ⟨hreleased, -⟩ := execute_awaitKey_eq_ok h
    · have houtcome := congrArg Effect.outcome heffect
      cases houtcome
    · exact ⟨x, rfl, hreleased⟩
  | returned | called | jumped | jumpedOffset | skipped | stored | computed => cases hwaits

/-- A step waits only if it executes an instruction that waits for a key and none is held. -/
theorem awaitKey_of_step (h : m.step.result = .ok .awaitingKey) :
    ∃ x, m.executed? .step = some (.awaitKey x) ∧ KeySource.lowestHeld? m.keypad = none := by
  rcases m.step_cases with ⟨-, hstep⟩ | ⟨-, -, hstep⟩ | ⟨word, effect, hruns, hfetch, hexecute,
    hstep⟩ | ⟨word, fault, -, -, -, hstep⟩
  · rw [hstep] at h
    cases h
  · rw [hstep] at h
    cases h
  · rw [hstep] at h
    obtain ⟨x, hawaits, hreleased⟩ := awaitKey_of_outcome hexecute (Except.ok.inj h)
    refine ⟨x, ?_, hreleased⟩
    rw [executed?_step hruns hfetch hstep, hawaits]
  · rw [hstep] at h
    cases h

/-! ## Any number of steps -/

/-- A machine that waits is where it was after a step that finds no key held, a tick, or a change of
the keypad. -/
theorem AwaitsKey.perform (h : m.AwaitsKey word x) {e : Event K}
    (hkind : e = .step ∨ e.isAmbient = true)
    (hreleased : e = .step → KeySource.lowestHeld? m.keypad = none) :
    (m.perform e).machine = { m with
      opcode := if e.isStep then word else m.opcode
      timers := Timers.tick^[tickCount [e]] m.timers
      keypad := e.change m.keypad } := by
  cases e with
  | step =>
    have hmachine := congrArg Reply.machine (h.step_of_released (hreleased rfl))
    exact hmachine
  | tick | changeKeys change => rfl
  | load | loadFile => rcases hkind with hstep | hambient <;> contradiction

/-- A machine that waits is where it was, after any steps that find no key held and whatever ticks
and changes of the keypad come between them. -/
theorem AwaitsKey.after (h : m.AwaitsKey word x) (events : List (Event K))
    (hkind : ∀ e ∈ events, e = .step ∨ e.isAmbient = true)
    (hreleased : ∀ es, es ++ [.step] <+: events →
      KeySource.lowestHeld? (m.after es).keypad = none) :
    m.after events = { m with
      opcode := if events.any Event.isStep then word else m.opcode
      timers := Timers.tick^[tickCount events] m.timers
      keypad := keysAfter m.keypad events } := by
  induction events generalizing m with
  | nil => rfl
  | cons e events ih =>
    have hfirst : e = .step → KeySource.lowestHeld? m.keypad = none := by
      rintro rfl
      exact hreleased [] ⟨events, rfl⟩
    have hmachine := h.perform (hkind e List.mem_cons_self) hfirst
    have hawaits : (m.perform e).machine.AwaitsKey word x := by
      rw [hmachine]
      exact ⟨h.runs, h.fetches, h.awaits⟩
    have hlater := ih hawaits (fun e' he' => hkind e' (List.mem_cons_of_mem e he'))
      fun es hes => hreleased (e :: es) (List.cons_prefix_cons.2 ⟨rfl, hes⟩)
    rw [after_cons, hlater, hmachine, tickCount_cons e events, Nat.add_comm,
      Function.iterate_add_apply]
    cases hstep : e.isStep <;> simp [hstep, keysAfter]

/-- A machine that waits still does so after such events. -/
theorem AwaitsKey.after_awaitsKey (h : m.AwaitsKey word x) (events : List (Event K))
    (hkind : ∀ e ∈ events, e = .step ∨ e.isAmbient = true)
    (hreleased : ∀ es, es ++ [.step] <+: events →
      KeySource.lowestHeld? (m.after es).keypad = none) :
    (m.after events).AwaitsKey word x := by
  rw [h.after events hkind hreleased]
  exact ⟨h.runs, h.fetches, h.awaits⟩

/-! ## The sixteen keys -/

/-- A step that finds some key held puts the lowest one into the register and goes on. -/
theorem AwaitsKey.step_of_isHeld {m : Machine D Keypad} (h : m.AwaitsKey word x) {held : UInt8}
    (hheld : m.keypad.isHeld held = true) :
    ∃ key, m.keypad.isHeld key = true ∧ (∀ other, other < key → m.keypad.isHeld other = false) ∧
      m.step = ⟨{ m with
        opcode := word
        pc := m.pc.next
        registers := m.registers.set x key }, .ok .executed, [.fetched m.pc word]⟩ := by
  cases hlowest : m.keypad.lowestHeld? with
  | none =>
    rw [(Keypad.lowestHeld?_eq_none_iff _).1 hlowest held] at hheld
    cases hheld
  | some key =>
    obtain ⟨hkey, hbelow⟩ := (Keypad.lowestHeld?_eq_some_iff _ _).1 hlowest
    exact ⟨key, hkey, hbelow, h.step_of_held hlowest⟩

/-- **Waiting for a key.** A machine stands at an instruction that waits for a key, and then come
steps, ticks and changes of the keypad, such that no step finds a key held. Each of these steps
reports that it waits. After at least one of them the machine is as it was, but that the word of the
instruction is the one executed last, that the timers show the ticks, and that the keypad shows its
changes. The first step that finds a key held is executed. It puts the lowest key into the register,
which is below sixteen, goes on after the instruction, records the word, and changes nothing else. A
step waits only if it executes such an instruction and no key is held. -/
theorem key_wait_resumes {m : Machine D Keypad} (hruns : m.halted = false)
    (hfetch : m.memory.fetch? m.pc = some word)
    (hawaits : .decode word = Instruction.awaitKey x) (events : List (Event Keypad))
    (hkind : ∀ e ∈ events, e = .step ∨ e.isAmbient = true)
    (hreleased : ∀ es, es ++ [.step] <+: events →
      ∀ key, (m.after es).keypad.isHeld key = false) :
    let t := m.after events
    (∀ es, es ++ [.step] <+: events → (m.after es).step.result = .ok .awaitingKey) ∧
    (.step ∈ events → t = { m with
      opcode := word
      timers := Timers.tick^[tickCount events] m.timers
      keypad := keysAfter m.keypad events }) ∧
    ((∃ key, t.keypad.isHeld key = true) →
      ∃ key, t.keypad.isHeld key = true ∧ (∀ other, other < key → t.keypad.isHeld other = false) ∧
        key.toNat < 16 ∧ t.step.result = .ok .executed ∧
        t.step.machine = { t with
          opcode := word
          pc := m.pc + 2
          registers := m.registers.set x key } ∧
        (m.pc + 2).toNat = m.pc.toNat + 2) ∧
    ∀ s : Machine D Keypad, s.step.result = .ok .awaitingKey →
      ∃ y, s.executed? .step = some (.awaitKey y) ∧ ∀ key, s.keypad.isHeld key = false := by
  intro t
  have hwaiting : m.AwaitsKey word x := ⟨hruns, hfetch, hawaits⟩
  have hnone : ∀ es, es ++ [.step] <+: events →
      KeySource.lowestHeld? (m.after es).keypad = none :=
    fun es hes => (Keypad.lowestHeld?_eq_none_iff _).2 (hreleased es hes)
  have hafter := hwaiting.after events hkind hnone
  refine ⟨fun es hes => ?_, fun hstep => ?_, fun ⟨held, hheld⟩ => ?_, fun s hs => ?_⟩
  · have hearlier : es <+: events := (List.prefix_append es [.step]).trans hes
    have hstill := hwaiting.after_awaitsKey es (fun e he => hkind e (hearlier.subset he))
      fun fs hfs => hnone fs (hfs.trans hearlier)
    rw [hstill.step_of_released (hnone es hes)]
  · have hany : events.any Event.isStep = true := List.any_eq_true.2 ⟨.step, hstep, rfl⟩
    rwa [if_pos hany] at hafter
  · have hstill : t.AwaitsKey word x := hwaiting.after_awaitsKey events hkind hnone
    have hpc : t.pc = m.pc := by simp only [t, hafter]
    have hregisters : t.registers = m.registers := by simp only [t, hafter]
    obtain ⟨key, hkey, hbelow, hstep⟩ := hstill.step_of_isHeld hheld
    rw [hpc, hregisters] at hstep
    refine ⟨key, hkey, hbelow, Keypad.toNat_lt_of_isHeld hkey, ?_, ?_, toNat_next_of_fetch hfetch⟩
    · rw [hstep]
    · rw [hstep]
      rfl
  · obtain ⟨y, hexecuted, hlowest⟩ := awaitKey_of_step hs
    exact ⟨y, hexecuted, (Keypad.lowestHeld?_eq_none_iff _).1 hlowest⟩

/-- Two keys are pressed while a machine with a running timer waits. -/
theorem key_wait_resumes_two_keys :
    ∃ (m : Machine FrameBuffer Keypad) (events : List (Event Keypad)),
      m.Reachable ∧ m.memory.fetch? m.pc = some 0xF30A ∧
      (m.after [.step, .tick]).step.result = .ok .awaitingKey ∧
      (m.after events).opcode = 0xF30A ∧ (m.after events).pc = m.pc ∧
      (m.after events).step.result = .ok .executed ∧
      (m.after events).step.machine.registers.get 3 = 7 ∧
      (m.after events).step.machine.timers = m.timers.tick := by
  let program : List UInt8 := [0x60, 0x09, 0xF0, 0x15, 0xF3, 0x0A]
  let m : Machine FrameBuffer Keypad :=
    (create ⟨.vy, 0, some 8⟩ (Bitmap.blank 64 32) .released (Vector.replicate 8 0)).after
      [.load program, .step, .step]
  let events : List (Event Keypad) :=
    [.step, .tick, .step, .changeKeys fun keypad => (keypad.press 12).press 7]
  have hrun : m.halted = false ∧ m.memory.fetch? m.pc = some 0xF30A ∧
      Instruction.decode 0xF30A = .awaitKey 3 ∧ m.keypad = .released ∧
      (m.after [.step, .tick]).keypad = .released ∧
      (m.after events).keypad.lowestHeld? = some 7 := by decide +kernel
  obtain ⟨hruns, hfetch, hawaits, hkeys, hkeys', hlowest⟩ := hrun
  have hreachable : m.Reachable := ⟨_, _, _, _, _, rfl⟩
  -- from here on only the facts about the machine count, not how it came about
  clear_value m
  have hreleased : ∀ es, es ++ [.step] <+: events →
      ∀ key, (m.after es).keypad.isHeld key = false := by
    intro es hes
    have hcases : es = [] ∨ es = [.step, .tick] := by
      rcases es with _ | ⟨e₁, _ | ⟨e₂, _ | ⟨e₃, _ | ⟨e₄, _⟩⟩⟩⟩ <;> simp [events] at hes ⊢
      exact hes
    rcases hcases with rfl | rfl
    · rw [after_nil, hkeys]
      exact Keypad.isHeld_released
    · rw [hkeys']
      exact Keypad.isHeld_released
  obtain ⟨hwaits, hstutter, hresumes, -⟩ := key_wait_resumes hruns hfetch hawaits events
    (by simp [events, Event.isAmbient]) hreleased
  have hafter := hstutter (by simp [events])
  obtain ⟨key, hkey, hbelow, -, hresult, hmachine, -⟩ :=
    hresumes ⟨7, ((Keypad.lowestHeld?_eq_some_iff _ _).1 hlowest).1⟩
  have hseven := (Keypad.lowestHeld?_eq_some_iff _ _).2 ⟨hkey, hbelow⟩
  rw [hlowest] at hseven
  obtain rfl := Option.some.inj hseven
  refine ⟨m, events, hreachable, hfetch, hwaits [.step, .tick] ⟨_, rfl⟩, ?_, ?_, hresult, ?_, ?_⟩
  · rw [hafter]
  · rw [hafter]
  · rw [hmachine]
    exact (Registers.get_set _ _ _ _).trans (if_pos rfl)
  · rw [hmachine, hafter]
    rfl

end Machine

end Chip8
