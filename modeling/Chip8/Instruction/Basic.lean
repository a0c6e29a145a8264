import Chip8.Opcode

/-!
# Instructions

What an instruction word can mean. There are thirty-four forms with a meaning; every other word is
`unmapped` and does nothing when it is executed. Operands carry their ranges in their types:
register numbers and sprite heights are digits, constants are bytes, and addresses have twelve bits.
-/

namespace Chip8

/-- The meaning of an instruction word. -/
inductive Instruction where
  /-- Every cell of the display goes off (`00E0`). -/
  | clearScreen
  /-- Go back to the instruction after the call that was made last (`00EE`). -/
  | ret
  /-- Go on at an address (`1NNN`). -/
  | jump (target : ShortAddress)
  /-- Go on at an address and remember where to come back (`2NNN`). -/
  | call (target : ShortAddress)
  /-- Skip an instruction if the register holds the constant (`3XKK`). -/
  | skipIfConstant (x : Nibble) (kk : UInt8)
  /-- Skip an instruction if the register holds another value than the constant (`4XKK`). -/
  | skipUnlessConstant (x : Nibble) (kk : UInt8)
  /-- Skip an instruction if two registers hold the same value (`5XY0`). -/
  | skipIfEqual (x y : Nibble)
  /-- Skip an instruction if two registers hold different values (`9XY0`). -/
  | skipUnlessEqual (x y : Nibble)
  /-- Put a constant into a register (`6XKK`). -/
  | setConstant (x : Nibble) (kk : UInt8)
  /-- Add a constant to a register, without a carry (`7XKK`). -/
  | addConstant (x : Nibble) (kk : UInt8)
  /-- Copy `VY` into `VX` (`8XY0`). -/
  | copy (x y : Nibble)
  /-- Bitwise or (`8XY1`). -/
  | or (x y : Nibble)
  /-- Bitwise and (`8XY2`). -/
  | and (x y : Nibble)
  /-- Bitwise exclusive or (`8XY3`). -/
  | xor (x y : Nibble)
  /-- Add `VY` to `VX`, the carry in `VF` (`8XY4`). -/
  | add (x y : Nibble)
  /-- Subtract `VY` from `VX`, `VF` set unless that borrows (`8XY5`). -/
  | subtract (x y : Nibble)
  /-- Shift right by one bit, which goes into `VF` (`8XY6`). -/
  | shiftRight (x y : Nibble)
  /-- Subtract `VX` from `VY` into `VX`, `VF` set unless that borrows (`8XY7`). -/
  | subtractFrom (x y : Nibble)
  /-- Shift left by one bit, which goes into `VF` (`8XYE`). -/
  | shiftLeft (x y : Nibble)
  /-- Put an address into the index register (`ANNN`). -/
  | setIndex (target : ShortAddress)
  /-- Go on at an address plus `V0` (`BNNN`). -/
  | jumpOffset (target : ShortAddress)
  /-- A random byte, masked by a constant (`CXKK`). -/
  | random (x : Nibble) (mask : UInt8)
  /-- Draw the sprite of `n` rows that the index register points to (`DXYN`). -/
  | draw (x y n : Nibble)
  /-- Skip an instruction if the key is held (`EX9E`). -/
  | skipIfHeld (x : Nibble)
  /-- Skip an instruction if the key is not held (`EXA1`). -/
  | skipUnlessHeld (x : Nibble)
  /-- Read the delay timer (`FX07`). -/
  | getDelay (x : Nibble)
  /-- Wait until a key is held, then read its number (`FX0A`). -/
  | awaitKey (x : Nibble)
  /-- Set the delay timer (`FX15`). -/
  | setDelay (x : Nibble)
  /-- Set the sound timer (`FX18`). -/
  | setSound (x : Nibble)
  /-- Add a register to the index register (`FX1E`). -/
  | addIndex (x : Nibble)
  /-- Point the index register to the font's picture of a digit (`FX29`). -/
  | pointGlyph (x : Nibble)
  /-- Write the three decimal digits of a register to memory (`FX33`). -/
  | storeDecimal (x : Nibble)
  /-- Write `V0` to `VX` to memory (`FX55`). -/
  | storeRegisters (x : Nibble)
  /-- Read `V0` to `VX` from memory (`FX65`). -/
  | loadRegisters (x : Nibble)
  /-- Every other word, executed without effect. -/
  | unmapped (word : Opcode)
deriving DecidableEq, Repr

end Chip8
