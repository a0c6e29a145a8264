import Chip8.Display.Sprite
import Chip8.Instruction.Basic
import Chip8.Keypad.Basic
import Chip8.Machine.Basic

/-!
# What instructions do

`Machine.execute` is the table of all instructions: what each of them makes, as a whole, of a
machine whose program counter already stands after it, or the fault with which it fails. The machine
goes through an instruction statement by statement (`Work.execute`); that this comes to what the
table says, and that an instruction that fails has changed nothing by then, is `Work.run_execute`.
-/

namespace Chip8

/-- How a step ended that did not fail. -/
inductive Outcome where
  /-- An instruction was executed. -/
  | executed
  /-- The instruction waits for a key and will be executed again. -/
  | awaitingKey
  /-- There is nothing left to execute. -/
  | halted
deriving DecidableEq, Repr

/-- What an instruction does. -/
structure Effect (D K : Type) where
  /-- The machine afterwards. -/
  machine : Machine D K
  /-- How the step ended. -/
  outcome : Outcome
  /-- What there is to report. -/
  messages : List Message

namespace Machine

variable {D K : Type}

/-- The effect of an instruction that is done and has nothing to report. -/
def done (m : Machine D K) : Except Fault (Effect D K) := .ok ⟨m, .executed, []⟩

/-- Put a value into a register. -/
def setRegister (m : Machine D K) (x : Nibble) (value : UInt8) : Machine D K :=
  { m with registers := m.registers.set x value }

/-- Put a result into a register and then set the flag, which wins if it is the same register. -/
def setResult (m : Machine D K) (x : Nibble) (value : UInt8) (flag : Bool) : Machine D K :=
  { m with registers := (m.registers.set x value).setFlag flag }

/-- Leave out the next instruction if a condition holds. -/
def skipIf (m : Machine D K) (condition : Bool) : Machine D K :=
  if condition then { m with pc := m.pc.next } else m

/-- What a shift instruction shifts. -/
def shiftOperand (m : Machine D K) (x y : Nibble) : UInt8 :=
  match m.config.shiftSource with
  | .vx => m.registers.get x
  | .vy => m.registers.get y

/-- The decimal digits of a byte: hundreds, tens and ones. -/
def decimalDigits (value : UInt8) : List UInt8 := [value / 100, value / 10 % 10, value % 10]

/-- Write bytes to memory from the index register on. -/
def store (m : Machine D K) (bytes : List UInt8) : Except Fault (Effect D K) :=
  match m.memory.write m.index.toNat bytes with
  | .ok memory => done { m with memory }
  | .error fault => .error fault

/-- What an instruction makes of a machine whose program counter stands after it. -/
def execute [Display D] [KeySource K] (m : Machine D K) : Instruction → Except Fault (Effect D K)
  | .clearScreen => done { m with display := Display.clear m.display }
  | .ret =>
    match m.stack.pop? with
    | some (pc, stack) => done { m with pc, stack }
    | none => .error (.stackUnderflow m.pc.previous)
  | .jump target => done { m with pc := target.toAddress }
  | .call target =>
    match m.stack.push? m.pc with
    | some stack => done { m with pc := target.toAddress, stack }
    | none => .error (.stackOverflow m.pc.previous)
  | .skipIfConstant x kk => done (m.skipIf (m.registers.get x == kk))
  | .skipUnlessConstant x kk => done (m.skipIf (m.registers.get x != kk))
  | .skipIfEqual x y => done (m.skipIf (m.registers.get x == m.registers.get y))
  | .skipUnlessEqual x y => done (m.skipIf (m.registers.get x != m.registers.get y))
  | .setConstant x kk => done (m.setRegister x kk)
  | .addConstant x kk => done { m with registers := m.registers.add x kk }
  | .copy x y => done (m.setRegister x (m.registers.get y))
  | .or x y => done (m.setRegister x (m.registers.get x ||| m.registers.get y))
  | .and x y => done (m.setRegister x (m.registers.get x &&& m.registers.get y))
  | .xor x y => done (m.setRegister x (m.registers.get x ^^^ m.registers.get y))
  | .add x y =>
    let a := m.registers.get x
    let b := m.registers.get y
    done (m.setResult x (a + b) (decide (256 ≤ a.toNat + b.toNat)))
  | .subtract x y =>
    let a := m.registers.get x
    let b := m.registers.get y
    done (m.setResult x (a - b) (decide (b ≤ a)))
  | .subtractFrom x y =>
    let a := m.registers.get x
    let b := m.registers.get y
    done (m.setResult x (b - a) (decide (a ≤ b)))
  | .shiftRight x y =>
    let s := m.shiftOperand x y
    done (m.setResult x (s >>> 1) (decide (s.toNat % 2 = 1)))
  | .shiftLeft x y =>
    let s := m.shiftOperand x y
    done (m.setResult x (s <<< 1) (decide (128 ≤ s.toNat)))
  | .setIndex target => done { m with index := target.toAddress }
  | .jumpOffset target =>
    done { m with pc := target.toAddress + (m.registers.get 0).toUInt16 }
  | .random x mask =>
    let (byte, generator) := m.generator.take
    done { m with registers := m.registers.set x (byte &&& mask), generator }
  | .draw x y n =>
    match m.memory.read m.index.toNat n.val with
    | .ok sprite =>
      let drawing := drawSprite m.display (m.registers.get x) (m.registers.get y) sprite
      done { m with
        display := drawing.display
        registers := m.registers.setFlag drawing.collision }
    | .error fault => .error fault
  | .skipIfHeld x => done (m.skipIf (KeySource.isHeld m.keypad (m.registers.get x)))
  | .skipUnlessHeld x => done (m.skipIf (!KeySource.isHeld m.keypad (m.registers.get x)))
  | .getDelay x => done (m.setRegister x m.timers.delay.count)
  | .awaitKey x =>
    match KeySource.lowestHeld? m.keypad with
    | some key => done (m.setRegister x key)
    | none => .ok ⟨{ m with pc := m.pc.previous }, .awaitingKey, [.awaitingKey x]⟩
  | .setDelay x => done { m with timers := { m.timers with delay := ⟨m.registers.get x⟩ } }
  | .setSound x => done { m with timers := { m.timers with sound := ⟨m.registers.get x⟩ } }
  | .addIndex x => done { m with index := m.index + (m.registers.get x).toUInt16 }
  | .pointGlyph x => done { m with index := m.memory.glyphAddress (m.registers.get x) }
  | .storeDecimal x => m.store (decimalDigits (m.registers.get x))
  | .storeRegisters x => m.store (m.registers.upTo x)
  | .loadRegisters x =>
    match m.memory.read m.index.toNat (x.val + 1) with
    | .ok bytes => done { m with registers := m.registers.fill bytes }
    | .error fault => .error fault
  | .unmapped word => .ok ⟨m, .executed, [.ignored word]⟩

end Machine

end Chip8
