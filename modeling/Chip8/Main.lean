import Chip8.Host.Frame
import Chip8.Host.Options
import Chip8.TickClock

/-!
# The command line program

Runs a program in a terminal. Each line of standard input is one frame: its characters are the keys
that are held, so an empty line holds none. After each frame the screen is printed. The end of the
input ends the program, and so does an instruction that fails.
-/

namespace Chip8

/-- How the program is called. -/
def usage : String :=
  "usage: chip8 PROGRAM [--legacy-shift] [--cycles-per-frame N] [--seed N]\n" ++
    "Each line of input is a frame that holds the keys 1234/QWER/ASDF/ZXCV it names."

/-- The contents of a file, if it can be read. -/
def readProgram? (path : String) : IO (Option (List UInt8)) := do
  try
    return some (← IO.FS.readBinFile path).toList
  catch _ =>
    return none

/-- A key for random bytes from the host's own source. -/
def entropyKey : IO KeyStream.Key := do
  let bytes ← IO.getRandomBytes 32
  let byteAt (i : Nat) : UInt32 := ((bytes.toList)[i]?.getD 0).toUInt32
  return Vector.ofFn fun i =>
    byteAt (4 * i.val) ||| (byteAt (4 * i.val + 1) <<< 8) ||| (byteAt (4 * i.val + 2) <<< 16) |||
      (byteAt (4 * i.val + 3) <<< 24)

/-- Report the messages that a user should see. -/
def report (messages : List Message) : IO Unit :=
  for m in messages do
    match m.level with
    | .error | .warn => IO.eprintln m.render
    | _ => pure ()

/-- Show frame after frame until the input ends or an instruction fails. -/
partial def play (m : Console) (clock : TickClock) (cycles : Nat) : IO UInt32 := do
  let line ← (← IO.getStdin).getLine
  if line.isEmpty then return 0
  let frame := m.steps (keysOfLine line) cycles
  report frame.messages.toList
  match frame.last with
  | some (.error fault) =>
    IO.eprintln ("program stopped: " ++ fault.text)
    return 1
  | _ =>
    let now ← IO.monoNanosNow
    let m := Console.ticks frame.machine (clock.ticksUntil now).toNat
    IO.print m.display.text
    play m (clock.poll now) cycles

/-- Load the program that the options name and play it. -/
def start (options : Options) : IO UInt32 := do
  report (Machine.creationMessages options.config)
  let fresh : Console :=
    Machine.create options.config (Bitmap.blank 64 32) Keypad.released (← entropyKey)
  let reply := fresh.loadFile options.program (← readProgram? options.program)
  report reply.messages
  match reply.result with
  | .error fault =>
    IO.eprintln fault.text
    return 1
  | .ok _ => play reply.machine (.startingAt (← IO.monoNanosNow)) options.cyclesPerFrame

end Chip8

def main (args : List String) : IO UInt32 := do
  match Chip8.Options.ofArgs args with
  | .error e =>
    IO.eprintln e.text
    IO.eprintln Chip8.usage
    return 2
  | .ok options => Chip8.start options
