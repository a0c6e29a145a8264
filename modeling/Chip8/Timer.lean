/-!
# Timers

A timer counts down to zero and stays there. The machine has two: the delay timer, which programs
read, and the sound timer, during whose run the host makes a sound. Only the host lets them count,
sixty times a second; executing instructions takes no time.
-/

namespace Chip8

/-- A counter that runs down to zero. -/
structure Timer where
  /-- The ticks that are left. -/
  count : UInt8
deriving DecidableEq, Repr

namespace Timer

/-- A timer that has run down. -/
def zero : Timer := ⟨0⟩

/-- Whether ticks are left. -/
def isRunning (t : Timer) : Bool := t.count != 0

/-- Count down once, stopping at zero. -/
def tick (t : Timer) : Timer := if t.isRunning then ⟨t.count - 1⟩ else t

/-- A tick takes one off the count, and nothing off zero. -/
theorem toNat_count_tick (t : Timer) : t.tick.count.toNat = t.count.toNat - 1 := by
  unfold tick
  split
  · rename_i h
    have hne : t.count.toNat ≠ 0 := by
      intro h0
      have : t.count = 0 := UInt8.toNat_inj.1 (by simpa using h0)
      simp [isRunning, this] at h
    have hle : (1 : UInt8) ≤ t.count := by
      rw [UInt8.le_iff_toNat_le]
      simp
      omega
    rw [UInt8.toNat_sub_of_le _ _ hle]
    simp
  · rename_i h
    have : t.count = 0 := by simpa [isRunning] using h
    simp [this]

end Timer

/-- The two timers of the machine. -/
structure Timers where
  /-- The timer that programs read. -/
  delay : Timer
  /-- The timer that runs while the host makes a sound. -/
  sound : Timer
deriving DecidableEq, Repr

namespace Timers

/-- Both timers have run down. -/
def zero : Timers := ⟨.zero, .zero⟩

/-- Both timers count down once. -/
def tick (t : Timers) : Timers := ⟨t.delay.tick, t.sound.tick⟩

end Timers

end Chip8
