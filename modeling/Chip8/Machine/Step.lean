import Chip8.Instruction.Decode
import Chip8.Machine.InPlace

/-!
# Steps and runs

A step fetches one instruction and executes it in place. A machine that cannot fetch halts, and so
does one whose instruction fails, as that leaves it; the fault is reported once, by the step that
met it, and from then on every step finds the machine halted. A run is a number of steps that ends
early when a step does anything but execute an instruction.
-/

namespace Chip8

namespace Machine

variable {D K : Type}

/-- The instruction that the next step executes, if it executes one. -/
def nextInstruction? (m : Machine D K) : Option Instruction :=
  if m.halted then none else (m.memory.fetch? m.pc).map .decode

/-- The machine after it has fetched a word: the program counter stands after the instruction. -/
def afterFetch (m : Machine D K) (word : Opcode) : Machine D K :=
  { m with opcode := word, pc := m.pc.next }

end Machine

namespace Work

variable {D K : Type}

/-- Stop for good. -/
def halt : Work D K Unit := change ({ · with halted := true })

/-- Fetch an instruction and execute it. -/
def step [Display D] [KeySource K] : Work D K Outcome := do
  let m ← machine
  if m.halted then return .halted
  match m.memory.fetch? m.pc with
  | none =>
    report [.ranPastEnd m.pc]
    halt
    return .halted
  | some word =>
    report [.fetched m.pc word]
    change (·.afterFetch word)
    -- catching a fault does not put the machine back as it was
    try execute (.decode word)
    catch fault =>
      report [.faulted fault]
      halt
      throw fault

end Work

/-- What comes of a step. -/
def Machine.step {D K : Type} [Display D] [KeySource K] (m : Machine D K) :
    Reply D K (Except Fault Outcome) := Work.step.reply m

/-- Some steps of a machine. -/
structure Run (D K : Type) where
  /-- The machine after the steps. -/
  machine : Machine D K
  /-- The number of steps. -/
  steps : Nat
  /-- How the last step ended, if there was one. -/
  last : Option (Except Fault Outcome)
  /-- What the steps reported, in order. -/
  messages : Array Message

namespace Run

variable {D K : Type}

/-- A run of no steps. -/
def start (m : Machine D K) : Run D K := ⟨m, 0, none, #[]⟩

/-- A run with one more step. -/
def extend [Display D] [KeySource K] (r : Run D K) : Run D K :=
  let reply := r.machine.step
  ⟨reply.machine, r.steps + 1, some reply.result, r.messages ++ reply.messages⟩

/-- Whether the last step executed an instruction, or there was none. -/
def goesOn (r : Run D K) : Bool :=
  match r.last with
  | none => true
  | some (.ok .executed) => true
  | some _ => false

/-- A run with up to so many more steps. -/
def advance [Display D] [KeySource K] (r : Run D K) : Nat → Run D K
  | 0 => r
  | n + 1 => if r.goesOn then r.extend.advance n else r

end Run

/-- Take up to so many steps, and none after one that does not execute an instruction. -/
def Machine.run {D K : Type} [Display D] [KeySource K] (m : Machine D K) (limit : Nat) : Run D K :=
  (Run.start m).advance limit

end Chip8
