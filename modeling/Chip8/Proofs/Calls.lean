import Chip8.Display.Bitmap
import Chip8.Proofs.Runs

/-!
# Calls and returns

An event starts the call stack over, takes one address off, puts one on, or leaves the stack as it
is, and which of these it does shows in the instruction that it executes (`StackChange`). Two facts
follow by induction over histories. While more calls are open than before some call, the return
address of that call and all addresses below it stay in place (`prefix_after`), whatever the program
does in between. And the number of open calls is the number of calls less the number of returns
(`length_stack_after`).
-/

namespace Chip8.Machine

variable {D K : Type} [Display D] [KeySource K] {m : Machine D K} {e : Event K}

/-! ## What an event does to the call stack -/

/-- What an event does to the call stack, and what it executes. -/
inductive StackChange (m : Machine D K) (e : Event K) : Prop
  | started (hprogram : e.program?.isSome = true)
    (hempty : (m.perform e).machine.stack.addresses = [])
  | returned (hexecuted : m.executed? e = some .ret)
    (hpop : m.stack.addresses =
      (m.perform e).machine.stack.addresses ++ [(m.perform e).machine.pc])
  | called {target : ShortAddress} (hexecuted : m.executed? e = some (.call target))
    (hpush : (m.perform e).machine.stack.addresses = m.stack.addresses ++ [m.pc.next])
  | kept (hexecuted : ∀ i ∈ m.executed? e, i.isCall = false ∧ i.isRet = false)
    (hsame : (m.perform e).machine.stack.addresses = m.stack.addresses)

/-- An event that executes nothing and keeps the call stack. -/
private theorem StackChange.of_executed?_eq_none (hexecuted : m.executed? e = none)
    (hsame : (m.perform e).machine.stack = m.stack) : m.StackChange e := by
  apply StackChange.kept
  · intro i hi
    rw [hexecuted] at hi
    cases hi
  · rw [hsame]

/-- Every event changes the call stack in one of the four ways. -/
theorem stackChange (m : Machine D K) (e : Event K) : m.StackChange e := by
  cases hprogram : e.program? with
  | some program =>
    obtain ⟨memory, -, hmachine⟩ := perform_of_program? hprogram m
    refine .started (by rw [hprogram]; rfl) ?_
    rw [hmachine]
    rfl
  | none =>
    rcases executed?_cases hprogram m with ⟨word, effect, rfl, hexecuted, hexecute, hmachine⟩ |
      ⟨hexecuted, keypad, timers, pc, opcode, halted, hmachine⟩
    · rcases (execute_change hexecute).stack with ⟨hret, hpop⟩ | ⟨target, hcall, -, hpush⟩ |
        ⟨hneither, hsame⟩
      · rw [hret] at hexecuted
        apply StackChange.returned hexecuted
        rw [hmachine]
        exact hpop
      · rw [hcall] at hexecuted
        apply StackChange.called hexecuted
        rw [hmachine]
        exact hpush
      · apply StackChange.kept
        · intro i hi
          rw [hexecuted] at hi
          obtain rfl := Option.some.inj hi
          exact hneither
        · rw [hmachine, hsame]
          rfl
    · exact .of_executed?_eq_none hexecuted (by rw [hmachine])

/-! ## Below an open call -/

/-- Addresses that lie at the bottom of the call stack stay there in an event that leaves at least
as many. -/
theorem prefix_perform {bottom : List Address} (h : bottom <+: m.stack.addresses)
    (hdepth : bottom.length ≤ (m.perform e).machine.stack.addresses.length) :
    bottom <+: (m.perform e).machine.stack.addresses := by
  cases m.stackChange e with
  | started hprogram hempty =>
    rw [hempty] at hdepth
    obtain rfl : bottom = [] := List.eq_nil_of_length_eq_zero (Nat.le_zero.1 hdepth)
    exact List.nil_prefix
  | returned hexecuted hpop =>
    -- both are prefixes of the stack before, and `bottom` is the shorter one
    rw [hpop] at h
    exact List.prefix_of_prefix_length_le h (List.prefix_append _ _) hdepth
  | called hexecuted hpush =>
    rw [hpush]
    exact h.trans (List.prefix_append _ _)
  | kept hexecuted hsame =>
    rw [hsame]
    exact h

/-- Addresses that lie at the bottom of the call stack stay there in a history that never leaves
fewer. -/
theorem prefix_after {bottom : List Address} (events : List (Event K))
    (h : bottom <+: m.stack.addresses)
    (hdepth : ∀ es, es <+: events → bottom.length ≤ (m.after es).stack.addresses.length) :
    bottom <+: (m.after events).stack.addresses := by
  induction events generalizing m with
  | nil => exact h
  | cons e events ih =>
    have hfirst := hdepth [e] (List.prefix_append [e] events)
    apply ih (prefix_perform h hfirst)
    intro es hes
    exact hdepth (e :: es) (List.cons_prefix_cons.2 ⟨rfl, hes⟩)

/-- A call that finds a free slot puts the address after it on the call stack. -/
theorem stack_step_of_call {target : ShortAddress}
    (hnext : m.nextInstruction? = some (.call target)) (hfree : m.stack.addresses.length < 16) :
    m.step.machine.stack.addresses = m.stack.addresses ++ [m.pc.next] ∧
      m.pc.next.toNat = m.pc.toNat + 2 := by
  obtain ⟨word, hruns, hfetch, hdecode⟩ := fetch_of_nextInstruction? hnext
  refine ⟨?_, toNat_next_of_fetch hfetch⟩
  cases hpush : m.stack.push? m.pc.next with
  | none =>
    rw [CallStack.push?_eq_none_iff] at hpush
    omega
  | some stack =>
    have hexecute : (m.afterFetch word).execute (.call target) =
        .ok ⟨{ m.afterFetch word with pc := target.toAddress, stack }, .executed, []⟩ := by
      have hpush' : (m.afterFetch word).stack.push? (m.afterFetch word).pc = some stack := hpush
      rw [execute, hpush']
      rfl
    rw [← hdecode] at hexecute
    rw [step_of_execute_eq_ok hruns hfetch hexecute]
    exact (CallStack.addresses_of_push? hpush).2

/-! ## Counting calls and returns -/

/-- As many calls are open after some events as before them, and those made in between, but for
those that came back. -/
theorem length_stack_after (events : List (Event K)) (m : Machine D K)
    (hnone : ∀ e ∈ events, e.program? = none) :
    (m.after events).stack.addresses.length + (m.executed events).countP Instruction.isRet =
      m.stack.addresses.length + (m.executed events).countP Instruction.isCall := by
  induction events generalizing m with
  | nil => rfl
  | cons e events ih =>
    have hrest := ih (m.perform e).machine fun e' he' => hnone e' (List.mem_cons_of_mem e he')
    rw [after_cons, executed, List.countP_append, List.countP_append]
    -- each event moves the depth as much as it moves the two counts
    cases m.stackChange e with
    | started hprogram hempty =>
      rw [hnone e List.mem_cons_self] at hprogram
      cases hprogram
    | returned hexecuted hpop =>
      have hlength : m.stack.addresses.length =
          (m.perform e).machine.stack.addresses.length + 1 := by
        rw [hpop, List.length_append]
        rfl
      have hcounts : (m.executed? e).toList.countP Instruction.isCall = 0 ∧
          (m.executed? e).toList.countP Instruction.isRet = 1 := by
        rw [hexecuted]
        exact ⟨rfl, rfl⟩
      omega
    | called hexecuted hpush =>
      have hlength : (m.perform e).machine.stack.addresses.length =
          m.stack.addresses.length + 1 := by
        rw [hpush, List.length_append]
        rfl
      have hcounts : (m.executed? e).toList.countP Instruction.isCall = 1 ∧
          (m.executed? e).toList.countP Instruction.isRet = 0 := by
        rw [hexecuted]
        exact ⟨rfl, rfl⟩
      omega
    | kept hexecuted hsame =>
      have hcounts : (m.executed? e).toList.countP Instruction.isCall = 0 ∧
          (m.executed? e).toList.countP Instruction.isRet = 0 := by
        cases hi : m.executed? e with
        | none => exact ⟨rfl, rfl⟩
        | some i =>
          obtain ⟨hcall, hret⟩ := hexecuted i hi
          simp [hcall, hret]
      rw [hsame] at hrest
      omega

/-- No call is open before a program has run. -/
theorem Fresh.stack (h : m.Fresh) : m.stack.addresses = [] := by
  cases h with
  | created => rfl
  | @loaded m e hprogram =>
    obtain ⟨program, hsome⟩ := Option.isSome_iff_exists.1 hprogram
    obtain ⟨memory, -, hmachine⟩ := perform_of_program? hsome m
    rw [hmachine]
    rfl

/-! ## The matching return -/

/-- **Calls and returns nest.** A step that brings the call stack back to where it was before a
call, after a history in which more calls were open, is a return; it goes on after the call, with
the call stack as it was before the call. And from the start of a program on, the number of open
calls is the number of calls less the number of returns, and at most sixteen. -/
theorem calls_nest :
    (∀ (m : Machine D K) (target : ShortAddress) (events : List (Event K)),
      m.nextInstruction? = some (.call target) → m.stack.addresses.length ≤ 15 →
      (∀ es, es <+: events →
        m.stack.addresses.length < (m.step.machine.after es).stack.addresses.length) →
      let last := m.step.machine.after events
      last.step.machine.stack.addresses.length = m.stack.addresses.length →
        last.executed? .step = some .ret ∧
        last.step.machine.pc = m.pc + 2 ∧ (m.pc + 2).toNat = m.pc.toNat + 2 ∧
        last.step.machine.stack.addresses = m.stack.addresses) ∧
    (∀ m : Machine D K, m.Fresh → ∀ events : List (Event K),
      (∀ e ∈ events, e.program? = none) →
        ((m.after events).stack.addresses.length : Int) =
          (m.executed events).countP Instruction.isCall -
            (m.executed events).countP Instruction.isRet ∧
        (m.after events).stack.addresses.length ≤ 16) := by
  constructor
  · intro m target events hnext hfree hdeep last hback
    obtain ⟨hpush, hnextPc⟩ := stack_step_of_call hnext (by omega)
    -- the return address of the call is the invariant: it stays right above the caller's
    have hbottom : m.stack.addresses ++ [m.pc.next] <+: last.stack.addresses := by
      apply prefix_after events
      · exact hpush ▸ List.prefix_refl _
      · intro es hes
        rw [List.length_append]
        exact hdeep es hes
    have habove : m.stack.addresses.length < last.stack.addresses.length :=
      hdeep events (List.prefix_refl _)
    -- only a return makes the stack shorter
    cases last.stackChange .step with
    | started hprogram => cases hprogram
    | returned hexecuted hpop =>
      change last.stack.addresses = last.step.machine.stack.addresses ++ [_] at hpop
      have hlength : (m.stack.addresses ++ [m.pc.next]).length = last.stack.addresses.length := by
        rw [hpop, List.length_append, List.length_append, hback]
        rfl
      have heq := (hbottom.eq_of_length hlength).trans hpop
      obtain ⟨hstack, hpc⟩ := List.append_inj' heq rfl
      exact ⟨hexecuted, (List.singleton_inj.1 hpc).symm, hnextPc, hstack.symm⟩
    | called hexecuted hpush' =>
      change last.step.machine.stack.addresses = last.stack.addresses ++ [_] at hpush'
      rw [hpush', List.length_append] at hback
      omega
    | kept hexecuted hsame =>
      change last.step.machine.stack.addresses = last.stack.addresses at hsame
      rw [hsame] at hback
      omega
  · intro m hfresh events hnone
    have hcount := length_stack_after events m hnone
    rw [hfresh.stack, List.length_nil] at hcount
    refine ⟨by omega, ?_⟩
    rw [CallStack.length_addresses]
    exact (m.after events).stack.depth_le

/-- A call at `0x200` whose subroutine calls another. -/
theorem calls_nest_two_deep :
    ∃ (m : Machine FrameBuffer Keypad) (events : List (Event Keypad)),
      m.Fresh ∧ m.nextInstruction? = some (.call 0x204) ∧
      (m.step.machine.after events).executed? .step = some .ret ∧
      (m.step.machine.after events).step.machine.pc = 0x202 ∧
      ((m.after (.step :: events)).stack.addresses.length : Int) = 2 - 1 := by
  let new : Machine FrameBuffer Keypad :=
    create ⟨.vy, 0, some 8⟩ (Bitmap.blank 64 32) .released (Vector.replicate 8 0)
  let program : Event Keypad :=
    .load [0x22, 0x04, 0x12, 0x02, 0x22, 0x08, 0x00, 0xEE, 0x00, 0xEE]
  let m := (new.perform program).machine
  let events : List (Event Keypad) := [.step, .tick, .step]
  have hrun : m.nextInstruction? = some (.call 0x204) ∧ m.stack.addresses = [] ∧
      (∀ n < 4, 0 < (m.step.machine.after (events.take n)).stack.addresses.length) ∧
      (m.step.machine.after events).step.machine.stack.addresses = [] ∧
      m.executed (.step :: events) = [.call 0x204, .call 0x208, .ret] := by decide +kernel
  obtain ⟨hnext, hstack, hdeep, hback, hexecuted⟩ := hrun
  obtain ⟨hreturn, hcount⟩ := calls_nest (D := FrameBuffer) (K := Keypad)
  have hfresh : m.Fresh := .loaded new (by decide)
  obtain ⟨hret, hpc, -, -⟩ := hreturn m 0x204 events hnext (by rw [hstack]; decide)
    (fun es hes => by
      rw [hstack, List.prefix_iff_eq_take.1 hes]
      exact hdeep es.length (Nat.lt_succ_of_le hes.length_le))
    (by rw [hback, hstack])
  obtain ⟨hdepth, -⟩ := hcount m hfresh (.step :: events) (by simp [events, Event.program?])
  rw [hexecuted] at hdepth
  exact ⟨m, events, hfresh, hnext, hret, hpc, hdepth⟩

end Chip8.Machine
