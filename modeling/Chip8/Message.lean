import Chip8.Fault

/-!
# Messages

What the machine has to say while it works. A message is a value; `Message.level` and `Message.text`
give its weight and its wording, and `Message.render` the line of a log.
-/

namespace Chip8

/-- How much a message matters. -/
inductive Level where
  | error
  | warn
  | info
  | debug
  | trace
deriving DecidableEq, Repr

/-- The name of a level in a log. -/
def Level.name : Level → String
  | error => "ERROR"
  | warn => "WARN"
  | info => "INFO"
  | debug => "DEBUG"
  | trace => "TRACE"

/-- Something that the machine reports. -/
inductive Message where
  /-- The font does not fit where it was requested and goes elsewhere. -/
  | fontMoved (requested used : Address)
  /-- A program of some size was loaded. -/
  | loaded (size : Nat)
  /-- An instruction was fetched. -/
  | fetched (pc : Address) (word : Opcode)
  /-- An instruction has no meaning and does nothing. -/
  | ignored (word : Opcode)
  /-- An instruction waits for a key that will go into a register. -/
  | awaitingKey (x : Nibble)
  /-- There is no instruction left to fetch. -/
  | ranPastEnd (pc : Address)
  /-- An instruction failed. -/
  | faulted (fault : Fault)
deriving DecidableEq, Repr

namespace Message

/-- The level of a message. -/
def level : Message → Level
  | fontMoved .. => .warn
  | loaded _ => .info
  | fetched .. => .trace
  | ignored _ => .debug
  | awaitingKey _ => .debug
  | ranPastEnd _ => .warn
  | faulted _ => .error

/-- The wording of a message. -/
def text : Message → String
  | fontMoved requested used =>
    "font base 0x" ++ Text.hex 3 requested.toNat ++ " overlaps program area, using 0x" ++
      Text.hex 3 used.toNat
  | loaded size => "loaded " ++ toString size ++ " byte program"
  | fetched pc word => Text.hexAddress pc.toNat ++ ": " ++ Text.hex 4 word.toNat
  | ignored word => "ignoring unmapped opcode " ++ Text.hex 4 word.toNat
  | awaitingKey x => "waiting for key into V" ++ Text.hex 1 x.val
  | ranPastEnd pc =>
    "pc " ++ Text.hexAddress pc.toNat ++ " ran past the end of memory, halting"
  | faulted fault => fault.text ++ ", halting"

/-- The line of a log that shows a message. -/
def render (m : Message) : String := m.level.name ++ " " ++ m.text

end Message

end Chip8
