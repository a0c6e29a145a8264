import Chip8.Instruction.Basic

/-!
# Decoding

`Instruction.decode` gives every word its meaning. The family selects the form; four families look
at further digits. Families `5` and `9` do not look at their last digit, and family `0` looks at its
last byte only.
-/

namespace Chip8.Instruction

/-- Family `0`: two instructions without operands. -/
def decodeControl (w : Opcode) : Instruction :=
  match w.kk with
  | 0xE0 => clearScreen
  | 0xEE => ret
  | _ => unmapped w

/-- Family `8`: the last digit selects an operation on two registers. -/
def decodeArithmetic (w : Opcode) : Instruction :=
  match w.n with
  | 0x0 => copy w.x w.y
  | 0x1 => or w.x w.y
  | 0x2 => and w.x w.y
  | 0x3 => xor w.x w.y
  | 0x4 => add w.x w.y
  | 0x5 => subtract w.x w.y
  | 0x6 => shiftRight w.x w.y
  | 0x7 => subtractFrom w.x w.y
  | 0xE => shiftLeft w.x w.y
  | _ => unmapped w

/-- Family `E`: the keypad. -/
def decodeKeypad (w : Opcode) : Instruction :=
  match w.kk with
  | 0x9E => skipIfHeld w.x
  | 0xA1 => skipUnlessHeld w.x
  | _ => unmapped w

/-- Family `F`: timers, the index register and memory. -/
def decodeTransfer (w : Opcode) : Instruction :=
  match w.kk with
  | 0x07 => getDelay w.x
  | 0x0A => awaitKey w.x
  | 0x15 => setDelay w.x
  | 0x18 => setSound w.x
  | 0x1E => addIndex w.x
  | 0x29 => pointGlyph w.x
  | 0x33 => storeDecimal w.x
  | 0x55 => storeRegisters w.x
  | 0x65 => loadRegisters w.x
  | _ => unmapped w

/-- The meaning of a word. -/
def decode (w : Opcode) : Instruction :=
  match w.family with
  | 0x0 => decodeControl w
  | 0x1 => jump w.nnn
  | 0x2 => call w.nnn
  | 0x3 => skipIfConstant w.x w.kk
  | 0x4 => skipUnlessConstant w.x w.kk
  | 0x5 => skipIfEqual w.x w.y
  | 0x6 => setConstant w.x w.kk
  | 0x7 => addConstant w.x w.kk
  | 0x8 => decodeArithmetic w
  | 0x9 => skipUnlessEqual w.x w.y
  | 0xA => setIndex w.nnn
  | 0xB => jumpOffset w.nnn
  | 0xC => random w.x w.kk
  | 0xD => draw w.x w.y w.n
  | 0xE => decodeKeypad w
  -- the digit left is `F`
  | _ => decodeTransfer w

end Chip8.Instruction
