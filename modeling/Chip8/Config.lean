import Chip8.Opcode

/-!
# Configuration

The choices in which machines differ: what the shift instructions shift, where the font lies, and
where random bytes come from.
-/

namespace Chip8

/-- What the two shift instructions shift. -/
inductive ShiftSource where
  /-- Shift `VX` in place. -/
  | vx
  /-- Copy `VY` into `VX` and shift that. -/
  | vy
deriving DecidableEq, Repr

/-- The choices that a machine is made with. -/
structure Config where
  /-- What the two shift instructions shift. -/
  shiftSource : ShiftSource
  /-- The requested address of the font; a machine moves it down to keep it out of programs. -/
  fontBase : Address
  /-- The seed of the random bytes; without one they come from outside. -/
  seed : Option UInt64
deriving DecidableEq, Repr

namespace Config

/-- The address of the font unless another one is requested. -/
def standardFontBase : Address := 0x50

/-- Shifts in place, the font at its standard address, no seed. -/
def standard : Config := ⟨.vx, standardFontBase, none⟩

end Config

end Chip8
