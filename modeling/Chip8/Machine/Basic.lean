import Chip8.CallStack
import Chip8.Config
import Chip8.Display.Basic
import Chip8.KeyStream.Generator
import Chip8.Memory
import Chip8.Registers
import Chip8.Timer

/-!
# The machine

A machine is the state of everything a program can see, over a display and a keypad that the host
brings along. This module holds the state, how it is made, and how programs are loaded. An operation
that can fail or that has something to report is `Work`, which goes on in place: if it fails, what
it has changed and reported so far stays. The host gets a `Reply`: the machine afterwards, the
result, and the messages in the order in which they came up.
-/

namespace Chip8

/-- A machine with its display and keypad. -/
structure Machine (D K : Type) where
  /-- The screen, which the host shows. -/
  display : D
  /-- The keys, which the host sets. -/
  keypad : K
  /-- The choices the machine was made with. -/
  config : Config
  /-- The byte registers. -/
  registers : Registers
  /-- The memory with program and font. -/
  memory : Memory
  /-- The address of the next instruction. -/
  pc : Address
  /-- The index register. -/
  index : Address
  /-- Where open calls come back to. -/
  stack : CallStack
  /-- The delay timer and the sound timer. -/
  timers : Timers
  /-- The word that was executed last. -/
  opcode : Opcode
  /-- Whether the machine has stopped for good. -/
  halted : Bool
  /-- Where random bytes come from. -/
  generator : KeyStream.Generator

/-- What comes of an operation on a machine. -/
structure Reply (D K α : Type) where
  /-- The machine afterwards. -/
  machine : Machine D K
  /-- What the host gets back. -/
  result : α
  /-- What the machine reported, in order. -/
  messages : List Message

/-- A machine that is being worked on. -/
structure Progress (D K : Type) where
  /-- The machine as it is now. -/
  machine : Machine D K
  /-- What has been reported, in order. -/
  messages : List Message

/-- An operation on a machine, in place. -/
abbrev Work (D K α : Type) := EStateM Fault (Progress D K) α

namespace Work

variable {D K α : Type}

/-- The machine as it is now. -/
def machine : Work D K (Machine D K) := return (← get).machine

/-- Change the machine. -/
def change (f : Machine D K → Machine D K) : Work D K Unit :=
  modify fun p => { p with machine := f p.machine }

/-- Report something. -/
def report (messages : List Message) : Work D K Unit :=
  modify fun p => { p with messages := p.messages ++ messages }

/-- Work on the memory. -/
def onMemory (x : EStateM Fault Memory α) : Work D K α :=
  InPlace.onPart (·.machine.memory)
    (fun p memory => { p with machine := { p.machine with memory } }) id x

/-- Work on the call stack, with the fault for an operation that is refused. -/
def onStack (fault : Fault) (x : EStateM Unit CallStack α) : Work D K α :=
  InPlace.onPart (·.machine.stack)
    (fun p stack => { p with machine := { p.machine with stack } }) (fun _ => fault) x

/-- What comes of work on a machine. -/
def reply (w : Work D K α) (m : Machine D K) : Reply D K (Except Fault α) :=
  match w.run ⟨m, []⟩ with
  | .ok a p => ⟨p.machine, .ok a, p.messages⟩
  | .error fault p => ⟨p.machine, .error fault, p.messages⟩

end Work

/-- The registers of a machine at one time. -/
structure Snapshot where
  /-- The byte registers. -/
  registers : List UInt8
  /-- The address of the next instruction. -/
  pc : Address
  /-- The index register. -/
  index : Address
  /-- Where open calls come back to, the oldest first. -/
  stack : List Address
  /-- The ticks left on the delay timer. -/
  delay : UInt8
  /-- The ticks left on the sound timer. -/
  sound : UInt8
  /-- The word that was executed last. -/
  opcode : Opcode
deriving DecidableEq, Repr

namespace Machine

variable {D K : Type}

/-- A machine without a program. Its random bytes come from the seed of the configuration, and
without a seed from the given key. -/
def create (config : Config) (display : D) (keypad : K) (entropy : KeyStream.Key) :
    Machine D K where
  display
  keypad
  config
  registers := .zero
  memory := .create config.fontBase
  pc := Memory.programStart
  index := 0
  stack := .empty
  timers := .zero
  opcode := 0
  halted := false
  generator := match config.seed with
    | some seed => .ofSeed seed
    | none => .ofKey entropy

/-- What a machine reports when it is made. -/
def creationMessages (config : Config) : List Message := Memory.fontMessages config.fontBase

/-- The machine as it starts with a memory: only configuration, keypad and generator stay. -/
def restart [Display D] (m : Machine D K) (memory : Memory) : Machine D K :=
  { m with
    display := Display.clear m.display
    registers := .zero
    memory
    pc := Memory.programStart
    index := 0
    stack := .empty
    timers := .zero
    opcode := 0
    halted := false }

end Machine

namespace Work

variable {D K : Type} [Display D]

/-- Start over with a program. It is put into a new memory, which the machine gets once the program
is in it. -/
def load (program : List UInt8) : Work D K Unit := do
  let m ← machine
  report (Memory.fontMessages m.config.fontBase)
  let memory ← MonadExcept.ofExcept ((Memory.create m.config.fontBase).load program)
  change (·.restart memory)
  report [.loaded program.length]

/-- Start over with the program of a file, given what the host could read of it. -/
def loadFile (path : String) (contents : Option (List UInt8)) : Work D K Unit := do
  let program ← contents.getDM (throw (.unreadableProgram path))
  load program

end Work

namespace Machine

variable {D K : Type}

/-- What comes of loading a program. -/
def load [Display D] (m : Machine D K) (program : List UInt8) : Reply D K (Except Fault Unit) :=
  (Work.load program).reply m

/-- What comes of loading the program of a file. -/
def loadFile [Display D] (m : Machine D K) (path : String) (contents : Option (List UInt8)) :
    Reply D K (Except Fault Unit) := (Work.loadFile path contents).reply m

/-- A sixtieth of a second has passed. -/
def tick (m : Machine D K) : Machine D K := { m with timers := m.timers.tick }

/-- The host changes the keypad. -/
def changeKeys (m : Machine D K) (change : K → K) : Machine D K :=
  { m with keypad := change m.keypad }

/-- Whether the host should be making a sound. -/
def soundActive (m : Machine D K) : Bool := m.timers.sound.isRunning

/-- The registers of the machine. -/
def snapshot (m : Machine D K) : Snapshot where
  registers := m.registers.toList
  pc := m.pc
  index := m.index
  stack := m.stack.addresses
  delay := m.timers.delay.count
  sound := m.timers.sound.count
  opcode := m.opcode

/-- A program that fits starts the machine over, and one that does not is refused before the machine
has changed. The host hears of the font either way. -/
theorem load_eq [Display D] (m : Machine D K) (program : List UInt8) :
    m.load program =
      match (Memory.create m.config.fontBase).load program with
      | .ok memory =>
        ⟨m.restart memory, .ok (),
          Memory.fontMessages m.config.fontBase ++ [.loaded program.length]⟩
      | .error fault => ⟨m, .error fault, Memory.fontMessages m.config.fontBase⟩ := by
  rw [load, Work.reply, Work.load, Work.machine]
  simp only [EStateM.run_bind, EStateM.run_get, EStateM.run_pure]
  cases (Memory.create m.config.fontBase).load program <;> rfl

end Machine

end Chip8
