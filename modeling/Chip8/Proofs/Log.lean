import Chip8.Display.Bitmap
import Chip8.Proofs.Failure
import Chip8.Proofs.LogLines
import Chip8.Proofs.Waiting

/-!
# What a log tells of a run

A step that fetches an instruction says so first, then what is to be said of the word, then how the
step ends if it does anything but execute an instruction (`messages_step_of_fetch`). So the messages
of a run follow from how its steps end, and how they end follows from the lines of the messages: a
line on the end of a step comes after the line of its fetch, so a log that is read from its end
yields the steps one by one (`Sign.foldr_note_flatMap_trail`). `log_tells_run` states this for all
histories, with loads and other events between the steps.
-/

namespace Chip8

/-! ## What is said of a word -/

namespace Instruction

/-- Whether an instruction has no meaning. -/
def isUnmapped : Instruction → Bool
  | unmapped _ => true
  | _ => false

theorem isUnmapped_eq_false {i : Instruction} (h : ∀ word, i ≠ .unmapped word) :
    i.isUnmapped = false := by
  cases i
  case unmapped word => exact absurd rfl (h word)
  all_goals rfl

/-- What messages show of an instruction is what a word holds. -/
def Shows (word : Opcode) : Instruction → Prop
  | unmapped word' => word' = word
  | awaitKey x => x = word.x
  | _ => True

/-- Decoding takes what messages show from the word. -/
theorem shows_decode (word : Opcode) : (decode word).Shows word := by
  unfold decode decodeControl decodeArithmetic decodeKeypad decodeTransfer
  repeat' split
  all_goals first | rfl | trivial

end Instruction

namespace Opcode

/-- What is said of a word that was fetched. -/
def remarks (word : Opcode) : List Message :=
  if (Instruction.decode word).isUnmapped then [.ignored word] else []

/-- What is said of the end of a step that fetched a word. -/
def closing (word : Opcode) : Except Fault Outcome → List Message
  | .ok .executed | .ok .halted => []
  | .ok .awaitingKey => [.awaitingKey word.x]
  | .error fault => [.faulted fault]

theorem filterMap_sign?_remarks (word : Opcode) : word.remarks.filterMap Message.sign? = [] := by
  unfold remarks
  split <;> rfl

theorem filter_trace_remarks (word : Opcode) :
    word.remarks.filter (fun message => message.level = .trace) = [] := by
  unfold remarks
  split <;> rfl

theorem filter_trace_closing (word : Opcode) (result : Except Fault Outcome) :
    (word.closing result).filter (fun message => message.level = .trace) = [] := by
  rcases result with fault | outcome
  · rfl
  · cases outcome <;> rfl

end Opcode

/-- Whether an answer is that of a step whose instruction was executed, waits for a key, or failed.
-/
def Answer.isOfInstruction : Answer → Bool
  | .stepped (.ok .executed) | .stepped (.ok .awaitingKey) | .stepped (.error _) => true
  | .stepped (.ok .halted) | .none | .loaded _ => false

/-! ## Reading a log from its end -/

namespace Message.Sign

/-- What messages tell of a step that ends in some way. -/
def trail : Except Fault Outcome → List Sign
  | .ok .executed => [.fetched]
  | .ok .awaitingKey => [.fetched, .waits]
  | .error fault => [.fetched, .failed fault]
  | .ok .halted => [.ranOut]

/-- One more sign, read from the end of a log on: how the step ends whose fetch is to come, and how
the steps after it end. -/
def note : Sign → Except Fault Outcome × List (Except Fault Outcome) →
    Except Fault Outcome × List (Except Fault Outcome)
  | fetched, (result, results) => (.ok .executed, result :: results)
  | waits, (_, results) => (.ok .awaitingKey, results)
  | failed fault, (_, results) => (.error fault, results)
  | ranOut, (_, results) => (.ok .executed, .ok .halted :: results)

/-- The signs of a step are read as the step. -/
theorem foldr_note_trail (result : Except Fault Outcome) (results : List (Except Fault Outcome)) :
    (trail result).foldr note (.ok .executed, results) = (.ok .executed, result :: results) := by
  rcases result with fault | outcome
  · rfl
  · cases outcome <;> rfl

/-- The signs of some steps are read as the steps. -/
theorem foldr_note_flatMap_trail (results : List (Except Fault Outcome)) :
    (results.flatMap trail).foldr note (.ok .executed, []) = (.ok .executed, results) := by
  induction results with
  | nil => rfl
  | cons result results ih =>
    rw [List.flatMap_cons, List.foldr_append, ih, foldr_note_trail]

/-- What is said of the end of a step that fetched tells how it ends. -/
theorem filterMap_sign?_closing (word : Opcode) {result : Except Fault Outcome}
    (hfetched : result ≠ .ok .halted) :
    .fetched :: (word.closing result).filterMap sign? = trail result := by
  rcases result with fault | outcome
  · rfl
  · cases outcome with
    | executed | awaitingKey => rfl
    | halted => exact absurd rfl hfetched

/-- A step that leaves the sign of a fault ends with it. -/
theorem eq_of_failed_mem_trail {result : Except Fault Outcome} {fault : Fault}
    (h : .failed fault ∈ trail result) : result = .error fault := by
  rcases result with fault' | outcome
  · simp only [trail, List.mem_cons, List.not_mem_nil, reduceCtorEq, false_or, or_false,
      failed.injEq] at h
    rw [h]
  · cases outcome <;> simp [trail] at h

/-- Steps that leave the same signs end in the same ways. -/
theorem flatMap_trail_inj {results results' : List (Except Fault Outcome)}
    (heq : results.flatMap trail = results'.flatMap trail) : results = results' := by
  have hread := foldr_note_flatMap_trail results
  rw [heq, foldr_note_flatMap_trail, Prod.mk.injEq] at hread
  exact hread.2.symm

end Message.Sign

/-! ## What messages report -/

namespace Message

/-- The message of a fetch. -/
def ofFetch (fetch : Address × Opcode) : Message := .fetched fetch.1 fetch.2

theorem sign?_of_isOfLoad {message : Message} (h : message.isOfLoad = true) :
    message.sign? = none := by
  cases message with
  | fontMoved | loaded => rfl
  | fetched | ignored | awaitingKey | ranPastEnd | faulted => cases h

theorem level_ne_trace_of_sign? {message : Message} (h : message.sign? ≠ some .fetched) :
    message.level ≠ .trace := by
  cases message with
  | fetched => exact absurd rfl h
  | fontMoved | loaded | ignored | awaitingKey | ranPastEnd | faulted => exact nofun

end Message

/-- Messages that report an event: what it fetches, how it ends, and what the host is told. -/
structure Report (messages : List Message) (fetch? : Option (Address × Opcode))
    (end? : Option (Except Fault Outcome)) (answer : Answer) : Prop where
  /-- They tell of a fetch if there was one. -/
  filter_trace : messages.filter (fun message => message.level = .trace) =
    fetch?.toList.map Message.ofFetch
  /-- They tell how the event ends. -/
  filterMap_sign? : messages.filterMap Message.sign? = end?.toList.flatMap Message.Sign.trail
  /-- The host is told of each instruction that was fetched. -/
  isSome_eq : fetch?.isSome = answer.isOfInstruction

namespace Report

/-- Messages that tell nothing of a step. -/
theorem of_sign?_eq_none {messages : List Message} {answer : Answer}
    (h : ∀ message ∈ messages, message.sign? = none) (hanswer : answer.isOfInstruction = false) :
    Report messages none none answer where
  filter_trace := by
    refine List.filter_eq_nil_iff.2 fun message hmem htrace => ?_
    refine Message.level_ne_trace_of_sign? ?_ (of_decide_eq_true htrace)
    rw [h message hmem]
    exact nofun
  filterMap_sign? := List.filterMap_eq_nil_iff.2 h
  isSome_eq := hanswer.symm

/-- The message of a step that finds no instruction. -/
theorem ranPastEnd (pc : Address) :
    Report [.ranPastEnd pc] none (some (.ok .halted)) (.stepped (.ok .halted)) where
  filter_trace := rfl
  filterMap_sign? := rfl
  isSome_eq := rfl

/-- The messages of a step that fetches. -/
theorem fetched (pc : Address) (word : Opcode) {result : Except Fault Outcome}
    (hfetched : result ≠ .ok .halted) :
    Report (.fetched pc word :: (word.remarks ++ word.closing result)) (some (pc, word))
      (some result) (.stepped result) where
  filter_trace := by
    rw [List.filter_cons_of_pos rfl, List.filter_append, Opcode.filter_trace_remarks,
      Opcode.filter_trace_closing]
    rfl
  filterMap_sign? := by
    have hfetch : (Message.fetched pc word).sign? = some .fetched := rfl
    rw [List.filterMap_cons_some hfetch, List.filterMap_append, Opcode.filterMap_sign?_remarks,
      List.nil_append, Message.Sign.filterMap_sign?_closing word hfetched]
    exact (List.append_nil _).symm
  isSome_eq := by
    rcases result with fault | outcome
    · rfl
    · cases outcome with
      | executed | awaitingKey => rfl
      | halted => exact absurd rfl hfetched

end Report

namespace Machine

variable {D K : Type} [Display D] [KeySource K] {m : Machine D K} {word : Opcode}

/-! ## Steps -/

/-- An instruction that succeeds reports a word without a meaning and a wait, and nothing else. -/
theorem messages_of_execute_decode {effect : Effect D K}
    (h : m.execute (.decode word) = .ok effect) :
    effect.messages = word.remarks ++ word.closing (.ok effect.outcome) := by
  have hshows := Instruction.shows_decode word
  rw [Opcode.remarks]
  generalize Instruction.decode word = i at h hshows ⊢
  rcases messages_of_execute h with hnone | ⟨word', rfl, -⟩ | ⟨x, rfl, hwaits⟩
  · have hmapped : i.isUnmapped = false := by
      apply Instruction.isUnmapped_eq_false
      rintro word' rfl
      cases h
      cases hnone
    have houtcome : effect.outcome = .executed := by
      rcases (execute_change h).outcome with hexecuted | hawaits
      · exact hexecuted
      · obtain ⟨x, rfl, hreleased⟩ := awaitKey_of_outcome h hawaits
        obtain ⟨key, hheld, -⟩ | ⟨-, rfl⟩ := execute_awaitKey_eq_ok h
        · rw [hreleased] at hheld
          cases hheld
        · cases hnone
    rw [hnone, hmapped, houtcome]
    rfl
  · cases h
    cases hshows
    rfl
  · obtain ⟨key, -, rfl⟩ | ⟨-, rfl⟩ := execute_awaitKey_eq_ok h
    · cases hwaits
    · cases hshows
      rfl

/-- A step that fetches reports the fetch, then what is to be said of the word, then its end. -/
theorem messages_step_of_fetch (hruns : m.halted = false)
    (hfetch : m.memory.fetch? m.pc = some word) :
    m.step.messages = .fetched m.pc word :: (word.remarks ++ word.closing m.step.result) ∧
      m.step.result ≠ .ok .halted := by
  cases hexecute : (m.afterFetch word).execute (.decode word) with
  | ok effect =>
    rw [step_of_execute_eq_ok hruns hfetch hexecute]
    refine ⟨congrArg _ (messages_of_execute_decode hexecute), fun hhalted => ?_⟩
    have houtcome : effect.outcome = .halted := Except.ok.inj hhalted
    rcases (execute_change hexecute).outcome with h | h <;> rw [h] at houtcome <;> cases houtcome
  | error fault =>
    rw [step_of_execute_eq_error hruns hfetch hexecute]
    refine ⟨?_, nofun⟩
    have hmapped : (Instruction.decode word).isUnmapped = false := by
      apply Instruction.isUnmapped_eq_false
      intro word' hword'
      rw [hword'] at hexecute
      cases hexecute
    rw [Opcode.remarks, hmapped]
    rfl

omit [Display D] [KeySource K] in
/-- The fault of an instruction is one of instructions. -/
theorem Fails.isOfInstruction {i : Instruction} {fault : Fault} (h : m.Fails i fault) :
    fault.isOfInstruction = true := by
  cases h <;> rfl

/-! ## Events -/

/-- The instruction that an event fetches, if it is a step and fetches one: its address and its
word. -/
def fetched? (m : Machine D K) : Event K → Option (Address × Opcode)
  | .step => if m.halted then none else (m.memory.fetch? m.pc).map (m.pc, ·)
  | _ => none

/-- How an event ends, if it is a step and the machine has not halted before. -/
def ended? (m : Machine D K) : Event K → Option (Except Fault Outcome)
  | .step => if m.halted then none else some m.step.result
  | _ => none

/-- The fault that a step ends with is one of an instruction. -/
theorem isOfInstruction_of_ended? {e : Event K} {fault : Fault}
    (h : m.ended? e = some (.error fault)) : fault.isOfInstruction = true := by
  cases e with
  | step =>
    rw [ended?] at h
    split at h
    · cases h
    · have hresult := Option.some.inj h
      rcases m.step_cases with ⟨-, hstep⟩ | ⟨-, -, hstep⟩ | ⟨word, effect, -, -, -, hstep⟩ |
        ⟨word, fault', -, -, hexecute, hstep⟩
      all_goals rw [hstep] at hresult; cases hresult
      exact (fails_of_execute hexecute).isOfInstruction
  | load | loadFile | tick | changeKeys => cases h

/-- The messages of an event go with what it fetches and with how it ends. -/
theorem report_perform (m : Machine D K) (e : Event K) :
    Report (m.perform e).messages (m.fetched? e) (m.ended? e) (m.perform e).result := by
  by_cases hstep : e = .step
  · subst hstep
    rw [fetched?, ended?, perform, Reply.map]
    cases hruns : m.halted with
    | true =>
      rw [step_of_halted hruns]
      exact .of_sign?_eq_none (fun message hmem => absurd hmem List.not_mem_nil) rfl
    | false =>
      cases hfetch : m.memory.fetch? m.pc with
      | none =>
        rw [step_of_fetch_eq_none hruns hfetch]
        exact .ranPastEnd m.pc
      | some word =>
        obtain ⟨hmessages, hfetched⟩ := messages_step_of_fetch hruns hfetch
        dsimp only
        rw [hmessages]
        exact .fetched m.pc word hfetched
  · have hnone : m.fetched? e = none ∧ m.ended? e = none ∧
        (m.perform e).result.isOfInstruction = false := by
      cases e with
      | step => exact absurd rfl hstep
      | load | loadFile | tick | changeKeys => exact ⟨rfl, rfl, rfl⟩
    rw [hnone.1, hnone.2.1]
    refine .of_sign?_eq_none (fun message hmem => ?_) hnone.2.2
    exact Message.sign?_of_isOfLoad (isOfLoad_of_ne_step hstep hmem)

/-! ## Histories -/

/-- What a history reports. -/
def log (m : Machine D K) (events : List (Event K)) : List Message :=
  (m.replies events).flatMap Reply.messages

/-- The instructions that a history fetches, in order, each with its address. -/
def fetches (m : Machine D K) : List (Event K) → List (Address × Opcode)
  | [] => []
  | e :: events => (m.fetched? e).toList ++ (m.perform e).machine.fetches events

/-- How the steps of a history end that do not find the machine halted, in order. -/
def ends (m : Machine D K) : List (Event K) → List (Except Fault Outcome)
  | [] => []
  | e :: events => (m.ended? e).toList ++ (m.perform e).machine.ends events

theorem log_cons (m : Machine D K) (e : Event K) (events : List (Event K)) :
    m.log (e :: events) = (m.perform e).messages ++ (m.perform e).machine.log events :=
  List.flatMap_cons

/-- The traces of a log are what was fetched. -/
theorem filter_trace_log (m : Machine D K) (events : List (Event K)) :
    (m.log events).filter (fun message => message.level = .trace) =
      (m.fetches events).map Message.ofFetch := by
  induction events generalizing m with
  | nil => rfl
  | cons e events ih =>
    rw [log_cons, List.filter_append, (m.report_perform e).filter_trace, ih, fetches,
      List.map_append]

/-- What a log tells is how the steps ended. -/
theorem filterMap_sign?_log (m : Machine D K) (events : List (Event K)) :
    (m.log events).filterMap Message.sign? = (m.ends events).flatMap Message.Sign.trail := by
  induction events generalizing m with
  | nil => rfl
  | cons e events ih =>
    rw [log_cons, List.filterMap_append, (m.report_perform e).filterMap_sign?, ih, ends,
      List.flatMap_append]

/-- As many instructions were fetched as the host was told of. -/
theorem length_fetches (m : Machine D K) (events : List (Event K)) :
    (m.fetches events).length =
      (m.replies events).countP fun reply => reply.result.isOfInstruction := by
  induction events generalizing m with
  | nil => rfl
  | cons e events ih =>
    rw [fetches, List.length_append, ih, replies, List.countP_cons,
      ← (m.report_perform e).isSome_eq, Nat.add_comm]
    cases m.fetched? e <;> rfl

/-- The faults that steps end with are faults of instructions. -/
theorem isOfInstruction_of_mem_ends {events : List (Event K)} {fault : Fault}
    (h : .error fault ∈ m.ends events) : fault.isOfInstruction = true := by
  induction events generalizing m with
  | nil => cases h
  | cons e events ih =>
    rcases List.mem_append.1 h with hfirst | hlater
    · exact isOfInstruction_of_ended? (Option.mem_toList.1 hfirst)
    · exact ih hlater

/-- The faults that a log tells of are faults of instructions. -/
theorem isOfMachine_of_mem_log {events : List (Event K)} :
    ∀ message ∈ m.log events, message.IsOfMachine := by
  rintro message hmem fault rfl
  have hsign : .failed fault ∈ (m.log events).filterMap Message.sign? :=
    List.mem_filterMap.2 ⟨_, hmem, rfl⟩
  rw [filterMap_sign?_log] at hsign
  obtain ⟨result, hresult, hfailed⟩ := List.mem_flatMap.1 hsign
  rw [Message.Sign.eq_of_failed_mem_trail hfailed] at hresult
  exact isOfInstruction_of_mem_ends hresult

/-- Histories with the same lines in their logs end in the same ways, step by step. -/
theorem ends_eq_of_render_eq {m m' : Machine D K} {events events' : List (Event K)}
    (heq : (m.log events).map Message.render = (m'.log events').map Message.render) :
    m.ends events = m'.ends events' := by
  apply Message.Sign.flatMap_trail_inj
  rw [← filterMap_sign?_log, ← filterMap_sign?_log]
  exact Message.filterMap_sign?_eq_of_map_render_eq isOfMachine_of_mem_log isOfMachine_of_mem_log
    heq

/-- **The log tells the run.** A step of a machine that has halted reports nothing, and one whose
program counter stands behind the last instruction reports that alone. Every other step reports the
address and the word that it fetches, then the word again if it has no meaning, then the wait for a
key or the fault that it ends with, and nothing else. Over any history, the traces of the log are
what was fetched, in order, as many as there are steps that execute an instruction, wait, or fail.
The lines of the log determine how every step ends that does not find the machine halted. -/
theorem log_tells_run (m : Machine D K) :
    (m.halted = true → m.step.messages = []) ∧
    (m.halted = false → 0xFFE < m.pc.toNat → m.step.messages = [.ranPastEnd m.pc]) ∧
    (m.halted = false → m.pc.toNat ≤ 0xFFE → ∃ word, m.memory.fetch? m.pc = some word ∧
      m.step.messages = .fetched m.pc word :: (word.remarks ++ word.closing m.step.result)) ∧
    ∀ events : List (Event K),
      (m.log events).filter (fun message => message.level = .trace) =
        (m.fetches events).map Message.ofFetch ∧
      (m.fetches events).length =
        (m.replies events).countP (fun reply => reply.result.isOfInstruction) ∧
      ∀ (m' : Machine D K) (events' : List (Event K)),
        (m.log events).map Message.render = (m'.log events').map Message.render →
        m.ends events = m'.ends events' := by
  refine ⟨fun hhalted => ?_, fun hruns hpast => ?_, fun hruns hle => ?_, fun events =>
    ⟨m.filter_trace_log events, m.length_fetches events, fun m' events' => ends_eq_of_render_eq⟩⟩
  · rw [step_of_halted hhalted]
  · rw [step_of_fetch_eq_none hruns ((m.memory.fetch?_eq_none_iff m.pc).2 hpast)]
  · have hfetch := m.memory.fetch?_of_lt (a := m.pc) (by omega)
    exact ⟨_, hfetch, (messages_step_of_fetch hruns hfetch).1⟩

/-- A word without a meaning, a key that is awaited, and a return without a call, on two machines
that differ in their choices; and a program counter behind the last instruction. -/
theorem log_tells_run_until_fault :
    ∃ (m m' t : Machine FrameBuffer Keypad) (events events' : List (Event Keypad)),
      m.Reachable ∧ m'.Reachable ∧ t.Reachable ∧
      m.step.messages = [.fetched 0x200 0x0000, .ignored 0x0000] ∧
      (m.after events).step.messages = [] ∧
      t.step.messages = [.ranPastEnd 0xFFF] ∧
      (m.log events).filter (fun message => message.level = .trace) =
        [.fetched 0x200 0x0000, .fetched 0x202 0xF30A, .fetched 0x202 0xF30A,
          .fetched 0x204 0x00EE] ∧
      m'.ends events' =
        [.ok .executed, .ok .awaitingKey, .ok .executed, .error (.stackUnderflow 0x204)] := by
  let start (config : Config) (events : List (Event Keypad)) : Machine FrameBuffer Keypad :=
    (create config (Bitmap.blank 64 32) .released (Vector.replicate 8 0)).after events
  let program : List UInt8 := [0x00, 0x00, 0xF3, 0x0A, 0x00, 0xEE]
  let m := start ⟨.vy, 0, some 8⟩ [.load program]
  let m' := start ⟨.vx, 0, some 9⟩ [.load program]
  let t := start ⟨.vy, 0, some 8⟩ [.load [0x1F, 0xFF], .step]
  let events : List (Event Keypad) :=
    [.step, .step, .changeKeys fun keypad => keypad.press 7, .step, .step]
  let events' : List (Event Keypad) :=
    [.step, .tick, .step, .changeKeys fun keypad => keypad.press 3, .step, .step]
  have hrun : (m.halted = false ∧ m.pc = 0x200 ∧ m.memory.fetch? m.pc = some 0x0000 ∧
      m.step.result = .ok .executed ∧ (m.after events).halted = true) ∧
      m.fetches events =
        [(0x200, 0x0000), (0x202, 0xF30A), (0x202, 0xF30A), (0x204, 0x00EE)] ∧
      m.log events = m'.log events' ∧ m.ends events =
        [.ok .executed, .ok .awaitingKey, .ok .executed, .error (.stackUnderflow 0x204)] := by
    decide +kernel
  have ht : t.halted = false ∧ t.pc = 0xFFF := by decide +kernel
  obtain ⟨⟨hruns, hpc, hfetch, hresult, hhalted⟩, hfetches, hlog, hends⟩ := hrun
  obtain ⟨htruns, htpc⟩ := ht
  refine ⟨m, m', t, events, events', ⟨_, _, _, _, _, rfl⟩, ⟨_, _, _, _, _, rfl⟩,
    ⟨_, _, _, _, _, rfl⟩, ?_⟩
  -- from here on only the facts about the machines count, not how they came about
  clear_value m m' t
  obtain ⟨-, -, hstep, hhistory⟩ := log_tells_run m
  obtain ⟨htrace, -, hdetermined⟩ := hhistory events
  refine ⟨?_, ?_, ?_, ?_, ?_⟩
  · obtain ⟨word, hword, hmessages⟩ := hstep hruns (by rw [hpc]; decide)
    obtain rfl : 0x0000 = word := Option.some.inj (hfetch.symm.trans hword)
    rw [hmessages, hresult, hpc]
    rfl
  · exact (log_tells_run (m.after events)).1 hhalted
  · rw [(log_tells_run t).2.1 htruns (by rw [htpc]; decide), htpc]
  · rw [htrace, hfetches]
    rfl
  · rw [← hdetermined m' events' (congrArg _ hlog), hends]

end Machine

end Chip8
