/-!
# The tick clock

Tells the host how many sixtieths of a second have passed since it last asked. Times are nanoseconds
after some fixed instant. What is left over of a period is kept for the next poll, so the rate does
not drift however the polls are spaced.
-/

namespace Chip8

/-- A clock that is polled for ticks. -/
structure TickClock where
  /-- The time of the last tick that was reported, or the start. -/
  lastTick : Nat
deriving DecidableEq, Repr

namespace TickClock

/-- How many ticks make a second. -/
def ticksPerSecond : Nat := 60

/-- The length of a tick in whole nanoseconds. -/
def period : Nat := 1000000000 / ticksPerSecond

/-- A clock that has reported no tick yet. -/
def startingAt (start : Nat) : TickClock := ⟨start⟩

/-- The ticks since the last poll, cut to 32 bits. A time before the last tick counts as that tick's
time. -/
def ticksUntil (c : TickClock) (now : Nat) : UInt32 :=
  UInt32.ofNat ((now - c.lastTick) / period)

/-- The clock after the ticks until a time were reported. -/
def poll (c : TickClock) (now : Nat) : TickClock :=
  ⟨c.lastTick + period * (c.ticksUntil now).toNat⟩

/-- The reports of a clock that is polled at one time after the other. -/
def reports (c : TickClock) : List Nat → List UInt32
  | [] => []
  | now :: later => c.ticksUntil now :: (c.poll now).reports later

/-- The number of ticks is the number of whole periods, modulo 2 to the power of 32. -/
theorem toNat_ticksUntil (c : TickClock) (now : Nat) :
    (c.ticksUntil now).toNat = (now - c.lastTick) / period % 4294967296 := by
  simp [ticksUntil]

end TickClock

end Chip8
