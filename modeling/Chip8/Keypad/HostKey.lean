import Chip8.Opcode

/-!
# Keys of the host

The keys that a host's keyboard may have. Sixteen of them stand for the keys of the machine: the
left four columns of letters and digits, laid over its pad.

```text
1 2 3 4        1 2 3 C
Q W E R   ->   4 5 6 D
A S D F        7 8 9 E
Z X C V        A 0 B F
```
-/

namespace Chip8

/-- A key of the host's keyboard. -/
inductive HostKey where
  | key0 | key1 | key2 | key3 | key4 | key5 | key6 | key7 | key8 | key9
  | a | b | c | d | e | f | g | h | i | j | k | l | m
  | n | o | p | q | r | s | t | u | v | w | x | y | z
  | f1 | f2 | f3 | f4 | f5 | f6 | f7 | f8 | f9 | f10 | f11 | f12 | f13 | f14 | f15
  | down | left | right | up
  | apostrophe | backquote | backslash | comma | equal | leftBracket | minus | period
  | rightBracket | semicolon | slash
  | backspace | delete | endKey | enter | escape | home | insert | menu | pageDown | pageUp
  | pause | space | tab | numLock | capsLock | scrollLock
  | leftShift | rightShift | leftCtrl | rightCtrl
  | numPad0 | numPad1 | numPad2 | numPad3 | numPad4
  | numPad5 | numPad6 | numPad7 | numPad8 | numPad9
  | numPadDot | numPadSlash | numPadAsterisk | numPadMinus | numPadPlus | numPadEnter
  | leftAlt | rightAlt | leftSuper | rightSuper
  | unknown | count
deriving DecidableEq, Repr

namespace HostKey

/-- The number of the machine's key that a host key stands for. -/
def number? : HostKey → Option Nibble
  | key1 => some 0x1
  | key2 => some 0x2
  | key3 => some 0x3
  | key4 => some 0xC
  | q => some 0x4
  | w => some 0x5
  | e => some 0x6
  | r => some 0xD
  | a => some 0x7
  | s => some 0x8
  | d => some 0x9
  | f => some 0xE
  | z => some 0xA
  | x => some 0x0
  | c => some 0xB
  | v => some 0xF
  | _ => none

/-- The key that types a character, among those that stand for keys of the machine. -/
def ofChar? (typed : Char) : Option HostKey :=
  match typed.toLower with
  | '1' => some key1
  | '2' => some key2
  | '3' => some key3
  | '4' => some key4
  | 'q' => some q
  | 'w' => some w
  | 'e' => some e
  | 'r' => some r
  | 'a' => some a
  | 's' => some s
  | 'd' => some d
  | 'f' => some f
  | 'z' => some z
  | 'x' => some x
  | 'c' => some c
  | 'v' => some v
  | _ => none

end HostKey

end Chip8
