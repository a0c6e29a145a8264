import Chip8.Machine.Step

/-!
# Execution in place comes to what the table says

`Work.execute` goes through an instruction statement by statement, and `Machine.execute` says in one
piece what the instruction does. They agree (`Work.run_execute`): an instruction that succeeds has
its effect, and one that fails has its fault and leaves the machine as it found it
(`Work.atomic_execute`). The second half is a matter of the order of the statements. In each of the
six instructions that can fail the check comes before the first change: the pop of a return and the
push of a call look for their slot first, the write of a store checks its range first, and the read
of a draw or of a load comes before the flag is taken back or a register is set.
-/

namespace Chip8

variable {D K : Type}

/-- How work on an instruction ends: with the effect of the instruction, or with its fault and
nothing done. -/
def Progress.finish (p : Progress D K) :
    Except Fault (Effect D K) → EStateM.Result Fault (Progress D K) Outcome
  | .ok effect => .ok effect.outcome ⟨effect.machine, p.messages ++ effect.messages⟩
  | .error fault => .error fault p

theorem Progress.finish_done (p : Progress D K) (m : Machine D K) :
    p.finish (Machine.done m) = .ok .executed { p with machine := m } := by
  rw [Machine.done, finish, List.append_nil]

namespace Work

variable (p : Progress D K)

/-! ## Statements that cannot fail -/

theorem run_register (x : Nibble) : (register x).run p = .ok (p.machine.registers.get x) p := rfl

theorem run_setFlag (on : Bool) :
    (setFlag on).run p =
      .ok () { p with machine :=
        { p.machine with registers := p.machine.registers.setFlag on } } := rfl

theorem run_skipIf (condition : Bool) :
    (skipIf condition).run p = .ok () { p with machine := p.machine.skipIf condition } := by
  cases condition <;> rfl

/-- Setting one register after the other overlays them with the bytes. -/
theorem run_setRegisters (i : Nat) (bytes : List UInt8) :
    (setRegisters i bytes).run p =
      .ok () { p with machine :=
        { p.machine with registers := ⟨overlay p.machine.registers.values i bytes⟩ } } := by
  induction bytes generalizing i p with
  | nil => rfl
  | cons b bs ih =>
    rw [setRegisters, EStateM.run_bind, run_change]
    exact ih _ (i + 1)

/-- A shift of `VY` has put it into `VX`, but there the result comes next. -/
theorem run_shiftOperand (x y : Nibble) :
    ∃ registers, (∀ value, registers.set x value = p.machine.registers.set x value) ∧
      (shiftOperand x y).run p =
        .ok (p.machine.shiftOperand x y) { p with machine := { p.machine with registers } } := by
  rw [shiftOperand, EStateM.run_bind, run_machine, Machine.shiftOperand]
  dsimp only
  cases p.machine.config.shiftSource with
  | vx => exact ⟨p.machine.registers, fun _ => rfl, rfl⟩
  | vy =>
    have hget : (p.machine.registers.set x (p.machine.registers.get y)).get x =
        p.machine.registers.get y := by
      rw [Registers.get_set, if_pos rfl]
    exact ⟨_, fun value => p.machine.registers.set_set x _ value,
      congrArg (EStateM.Result.ok · _) hget⟩

theorem run_draw [Display D] (x y : UInt8) (sprite : List UInt8) :
    (draw x y sprite).run p =
      .ok (drawSprite p.machine.display x y sprite).collision
        { p with machine :=
          { p.machine with display := (drawSprite p.machine.display x y sprite).display } } := rfl

/-! ## Statements that can fail -/

/-- A pop that is refused leaves the machine as it was. -/
theorem run_onStack_pop (fault : Fault) :
    (onStack fault CallStack.pop).run p =
      match p.machine.stack.pop? with
      | some (pc, stack) => .ok pc { p with machine := { p.machine with stack } }
      | none => .error fault p := by
  rw [onStack, CallStack.atomic_pop.run_onPart fun _ => rfl, CallStack.pop?]
  cases InPlace.attempt CallStack.pop p.machine.stack <;> rfl

/-- A push that is refused leaves the machine as it was. -/
theorem run_onStack_push (fault : Fault) (a : Address) :
    (onStack fault (CallStack.push a)).run p =
      match p.machine.stack.push? a with
      | some stack => .ok () { p with machine := { p.machine with stack } }
      | none => .error fault p := by
  rw [onStack, (CallStack.atomic_push a).run_onPart fun _ => rfl, CallStack.push?]
  cases InPlace.attempt (CallStack.push a) p.machine.stack <;> rfl

theorem run_read (length : Nat) :
    (read length).run p =
      match p.machine.memory.read p.machine.index.toNat length with
      | .ok bytes => .ok bytes p
      | .error fault => .error fault p := by
  rw [read, EStateM.run_bind, run_machine]
  dsimp only
  cases p.machine.memory.read p.machine.index.toNat length <;> rfl

/-- A store is the whole of an instruction. One that is refused leaves the machine as it was. -/
theorem run_store (bytes : List UInt8) :
    (do store bytes; return .executed : Work D K Outcome).run p =
      p.finish (p.machine.store bytes) := by
  rw [EStateM.run_bind, store, EStateM.run_bind, run_machine]
  dsimp only
  rw [onMemory, (Memory.atomic_writeInPlace _ _).run_onPart fun _ => rfl, Machine.store,
    Memory.write]
  cases InPlace.attempt (Memory.writeInPlace p.machine.index.toNat bytes) p.machine.memory with
  | error fault => rfl
  | ok written => exact (p.finish_done _).symm

/-! ## Instructions -/

variable [Display D] [KeySource K]

/-- Execution in place has the effect of the instruction, or it fails with its fault and has changed
and reported nothing. -/
theorem run_execute (i : Instruction) : (execute i).run p = p.finish (p.machine.execute i) := by
  cases i
  case ret =>
    simp only [execute, Machine.execute, EStateM.run_bind, run_machine, run_onStack_pop]
    cases p.machine.stack.pop? with
    | none => rfl
    | some top => exact (p.finish_done _).symm
  case call target =>
    simp only [execute, Machine.execute, EStateM.run_bind, run_machine, run_onStack_push]
    cases p.machine.stack.push? p.machine.pc with
    | none => rfl
    | some stack => exact (p.finish_done _).symm
  case draw x y n =>
    simp only [execute, Machine.execute, EStateM.run_bind, run_register, run_read]
    cases p.machine.memory.read p.machine.index.toNat n.val with
    | error fault => rfl
    | ok sprite =>
      simp only [run_setFlag, run_draw, Progress.finish_done]
      -- the flag has been taken back, and is set again after a collision
      cases (drawSprite p.machine.display (p.machine.registers.get x) (p.machine.registers.get y)
        sprite).collision with
      | true =>
        rw [← Registers.setFlag_setFlag p.machine.registers false true]
        rfl
      | false => rfl
  case storeDecimal | storeRegisters =>
    rw [execute, Machine.execute, ← run_store]
    simp only [EStateM.run_bind, run_register, run_machine]
  case loadRegisters x =>
    simp only [execute, Machine.execute, EStateM.run_bind, run_read]
    cases p.machine.memory.read p.machine.index.toNat (x.val + 1) with
    | error fault => rfl
    | ok bytes =>
      simp only [run_setRegisters]
      exact (p.finish_done _).symm
  -- the others do not fail; what is left of them are branches and one statement more
  case awaitKey x =>
    simp only [execute, Machine.execute, EStateM.run_bind, run_machine]
    cases KeySource.lowestHeld? p.machine.keypad with
    | none => rfl
    | some key => exact (p.finish_done _).symm
  case skipIfConstant | skipUnlessConstant | skipIfEqual | skipUnlessEqual | skipIfHeld |
      skipUnlessHeld =>
    rw [execute, Machine.execute, Progress.finish_done]
    simp only [EStateM.run_bind, run_machine, run_register, run_skipIf]
    rfl
  case random x mask =>
    rw [execute, Machine.execute, EStateM.run_bind, randomByte, EStateM.run_bind, run_machine]
    dsimp only
    -- what the generator gives is the same on both sides, and need not be looked at
    generalize p.machine.generator.take = taken
    exact (p.finish_done _).symm
  case shiftRight x y | shiftLeft x y =>
    obtain ⟨registers, hset, hrun⟩ := run_shiftOperand p x y
    rw [execute, Machine.execute, Progress.finish_done, EStateM.run_bind, hrun, Machine.setResult,
      ← hset]
    rfl
  case unmapped => rfl
  all_goals exact (p.finish_done _).symm

/-- An instruction that fails leaves the machine as it found it, and has reported nothing. -/
theorem atomic_execute (i : Instruction) : InPlace.Atomic (execute (D := D) (K := K) i) := by
  intro p fault p' h
  rw [run_execute] at h
  cases hexecute : p.machine.execute i with
  | ok effect =>
    rw [hexecute] at h
    cases h
  | error fault' =>
    rw [hexecute] at h
    cases h
    rfl

end Work

end Chip8
