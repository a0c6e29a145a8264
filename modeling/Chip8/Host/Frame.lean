import Chip8.Display.Bitmap
import Chip8.Machine.Step

/-!
# Frames

A host shows the screen frame by frame. In each frame it passes on the keys that are held, lets the
machine take some steps, and then lets the timers tick as often as time has passed.
-/

namespace Chip8

/-- The machine of a host with a screen of the usual size. -/
abbrev Console := Machine FrameBuffer Keypad

namespace Console

/-- The steps of one frame, while some keys of the host are held. -/
def steps (m : Console) (keys : List HostKey) (cycles : Nat) : Run FrameBuffer Keypad :=
  (m.changeKeys fun _ => Keypad.ofHostKeys keys).run cycles

/-- The machine after a number of ticks. -/
def ticks (m : Console) (count : Nat) : Console := Nat.repeat Machine.tick count m

end Console

/-- The keys that a line of text names, one for each of its characters that stands for one. -/
def keysOfLine (line : String) : List HostKey := line.toList.filterMap HostKey.ofChar?

end Chip8
