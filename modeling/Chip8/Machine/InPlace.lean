import Chip8.Machine.Execute

/-!
# Executing an instruction in place

How the machine goes about an instruction: `Work.execute` takes each one apart into single
statements, in the order in which they are executed. A statement changes the machine at once and
nothing is ever taken back, so one that fails leaves what those before it have done.
-/

namespace Chip8

namespace Work

variable {D K : Type}

/-! ## Statements -/

@[simp] theorem run_machine (p : Progress D K) : machine.run p = .ok p.machine p := rfl

@[simp] theorem run_change (f : Machine D K → Machine D K) (p : Progress D K) :
    (change f).run p = .ok () { p with machine := f p.machine } := rfl

/-- The value of a register. -/
def register (x : Nibble) : Work D K UInt8 := return (← machine).registers.get x

/-- Put a value into a register. -/
def setRegister (x : Nibble) (value : UInt8) : Work D K Unit := change (·.setRegister x value)

/-- Set the flag or take it back. -/
def setFlag (on : Bool) : Work D K Unit :=
  change fun m => { m with registers := m.registers.setFlag on }

/-- Put bytes into the registers from one on, one after the other. -/
def setRegisters (i : Nat) : List UInt8 → Work D K Unit
  | [] => pure ()
  | b :: bs => do
    change fun m => { m with registers := ⟨m.registers.values.setIfInBounds i b⟩ }
    setRegisters (i + 1) bs

/-- Go on at an address. -/
def goTo (pc : Address) : Work D K Unit := change ({ · with pc })

/-- Leave out the next instruction if a condition holds. -/
def skipIf (condition : Bool) : Work D K Unit := do
  if condition then change fun m => { m with pc := m.pc.next }

/-- Point the index register to an address. -/
def setIndex (index : Address) : Work D K Unit := change ({ · with index })

/-- The next random byte. -/
def randomByte : Work D K UInt8 := do
  let (byte, generator) := (← machine).generator.take
  change ({ · with generator })
  return byte

/-- What a shift instruction shifts. A shift of `VY` puts it into `VX` first. -/
def shiftOperand (x y : Nibble) : Work D K UInt8 := do
  if (← machine).config.shiftSource = .vy then setRegister x (← register y)
  register x

/-- The bytes of memory from the index register on. -/
def read (length : Nat) : Work D K (List UInt8) := do
  let m ← machine
  MonadExcept.ofExcept (m.memory.read m.index.toNat length)

/-- Write bytes to memory from the index register on. -/
def store (bytes : List UInt8) : Work D K Unit := do
  onMemory (Memory.writeInPlace (← machine).index.toNat bytes)

/-- Draw a sprite, and tell whether a lit cell was switched off. -/
def draw [Display D] (x y : UInt8) (sprite : List UInt8) : Work D K Bool := do
  let drawing := drawSprite (← machine).display x y sprite
  change ({ · with display := drawing.display })
  return drawing.collision

/-! ## Instructions -/

/-- Execute an instruction on a machine whose program counter stands after it. -/
def execute [Display D] [KeySource K] (i : Instruction) : Work D K Outcome := do
  match i with
  | .clearScreen => change fun m => { m with display := Display.clear m.display }
  | .ret =>
    let site := (← machine).pc.previous
    let pc ← onStack (.stackUnderflow site) CallStack.pop
    goTo pc
  | .jump target => goTo target.toAddress
  | .call target =>
    let pc := (← machine).pc
    onStack (.stackOverflow pc.previous) (CallStack.push pc)
    goTo target.toAddress
  | .skipIfConstant x kk => skipIf ((← register x) == kk)
  | .skipUnlessConstant x kk => skipIf ((← register x) != kk)
  | .skipIfEqual x y => skipIf ((← register x) == (← register y))
  | .skipUnlessEqual x y => skipIf ((← register x) != (← register y))
  | .setConstant x kk => setRegister x kk
  | .addConstant x kk => change fun m => { m with registers := m.registers.add x kk }
  | .copy x y => setRegister x (← register y)
  | .or x y => setRegister x ((← register x) ||| (← register y))
  | .and x y => setRegister x ((← register x) &&& (← register y))
  | .xor x y => setRegister x ((← register x) ^^^ (← register y))
  -- both operands are looked at first and the flag is set last, so that it wins
  | .add x y =>
    let a ← register x
    let b ← register y
    setRegister x (a + b)
    setFlag (256 ≤ a.toNat + b.toNat)
  | .subtract x y =>
    let a ← register x
    let b ← register y
    setRegister x (a - b)
    setFlag (b ≤ a)
  | .subtractFrom x y =>
    let a ← register x
    let b ← register y
    setRegister x (b - a)
    setFlag (a ≤ b)
  | .shiftRight x y =>
    let s ← shiftOperand x y
    setRegister x (s >>> 1)
    setFlag (s.toNat % 2 = 1)
  | .shiftLeft x y =>
    let s ← shiftOperand x y
    setRegister x (s <<< 1)
    setFlag (128 ≤ s.toNat)
  | .setIndex target => setIndex target.toAddress
  | .jumpOffset target => goTo (target.toAddress + (← register 0).toUInt16)
  | .random x mask =>
    let byte ← randomByte
    setRegister x (byte &&& mask)
  | .draw x y n =>
    let column ← register x
    let line ← register y
    let sprite ← read n.val
    setFlag false
    if ← draw column line sprite then setFlag true
  | .skipIfHeld x => skipIf (KeySource.isHeld (← machine).keypad (← register x))
  | .skipUnlessHeld x => skipIf (!KeySource.isHeld (← machine).keypad (← register x))
  | .getDelay x => setRegister x (← machine).timers.delay.count
  | .awaitKey x =>
    match KeySource.lowestHeld? (← machine).keypad with
    | some key => setRegister x key
    | none =>
      change fun m => { m with pc := m.pc.previous }
      report [.awaitingKey x]
      return .awaitingKey
  | .setDelay x =>
    let count ← register x
    change fun m => { m with timers := { m.timers with delay := ⟨count⟩ } }
  | .setSound x =>
    let count ← register x
    change fun m => { m with timers := { m.timers with sound := ⟨count⟩ } }
  | .addIndex x => setIndex ((← machine).index + (← register x).toUInt16)
  | .pointGlyph x => setIndex ((← machine).memory.glyphAddress (← register x))
  | .storeDecimal x => store (Machine.decimalDigits (← register x))
  | .storeRegisters x => store ((← machine).registers.upTo x)
  | .loadRegisters x => setRegisters 0 (← read (x.val + 1))
  | .unmapped word => report [.ignored word]
  return .executed

end Work

end Chip8
