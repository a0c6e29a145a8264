import Chip8.TickClock

/-!
# The ticks of a clock add up

A clock is polled at any times, in any order. What it has reported altogether (`TickClock.total`)
stands in its own state, as the distance from the start to the last tick (`lastTick_after`), and the
last tick is never later than the latest poll (`lastTick_after_le`). So the clock never runs ahead.
A report is cut to 32 bits; as long as no poll is so late that this shows (`reach`), the total is
the number of whole periods up to the latest poll, and nothing else about the polls matters
(`total_of_lt`).
-/

namespace Chip8.TickClock

/-- The clock after it was polled at one time after the other. -/
def after (c : TickClock) (polls : List Nat) : TickClock := polls.foldl poll c

/-- The ticks of all reports together. -/
def total (c : TickClock) (polls : List Nat) : Nat :=
  (c.reports polls).foldr (fun ticks sum => ticks.toNat + sum) 0

/-- How long after the last tick a poll is so late that its report is cut. -/
def reach : Nat := 4294967296 * period

/-- The latest of some times, and zero if there is none. -/
def latest (polls : List Nat) : Nat := polls.foldr max 0

variable {c : TickClock} {now : Nat}

theorem period_pos : 0 < period := by decide

/-! ## One poll -/

/-- A poll moves the last tick on by the ticks that it reports. -/
theorem lastTick_poll (c : TickClock) (now : Nat) :
    (c.poll now).lastTick = c.lastTick + period * (c.ticksUntil now).toNat := rfl

/-- A poll reports no more than the whole periods since the last tick. -/
theorem toNat_ticksUntil_le (c : TickClock) (now : Nat) :
    (c.ticksUntil now).toNat ≤ (now - c.lastTick) / period := by
  rw [toNat_ticksUntil]
  exact Nat.mod_le _ _

/-- A poll reports all whole periods since the last tick, if their number has 32 bits. -/
theorem toNat_ticksUntil_of_lt (h : now < c.lastTick + reach) :
    (c.ticksUntil now).toNat = (now - c.lastTick) / period := by
  rw [toNat_ticksUntil]
  apply Nat.mod_eq_of_lt
  rw [Nat.div_lt_iff_lt_mul period_pos]
  show now - c.lastTick < reach
  have : 0 < reach := by decide
  omega

/-- A poll leaves the last tick where it is, or moves it up to a time that has come. -/
theorem lastTick_poll_le (c : TickClock) (now : Nat) :
    (c.poll now).lastTick ≤ max c.lastTick now := by
  have hticks : period * (c.ticksUntil now).toNat ≤ now - c.lastTick :=
    Nat.le_trans (Nat.mul_le_mul_left period (c.toNat_ticksUntil_le now)) (Nat.mul_div_le _ _)
  rw [lastTick_poll]
  omega

/-- A poll at the last tick or before reports nothing and changes nothing. -/
theorem poll_of_le (h : now ≤ c.lastTick) : c.ticksUntil now = 0 ∧ c.poll now = c := by
  have hticks : c.ticksUntil now = 0 := by
    rw [ticksUntil, Nat.sub_eq_zero_of_le h, Nat.zero_div]
    rfl
  refine ⟨hticks, ?_⟩
  rw [poll, hticks]
  rfl

/-- What a poll leaves over for the next one is less than a period. -/
theorem sub_lastTick_poll_lt (hle : c.lastTick ≤ now) (hlt : now < c.lastTick + reach) :
    (c.poll now).lastTick ≤ now ∧ now - (c.poll now).lastTick < period := by
  have hsplit := Nat.div_add_mod (now - c.lastTick) period
  have hrest := Nat.mod_lt (now - c.lastTick) period_pos
  rw [lastTick_poll, toNat_ticksUntil_of_lt hlt]
  omega

/-! ## Many polls -/

@[simp] theorem total_nil (c : TickClock) : c.total [] = 0 := rfl

theorem total_cons (c : TickClock) (now : Nat) (polls : List Nat) :
    c.total (now :: polls) = (c.ticksUntil now).toNat + (c.poll now).total polls := rfl

theorem latest_cons (now : Nat) (polls : List Nat) :
    latest (now :: polls) = max now (latest polls) := rfl

/-- One more poll adds its report to the total. -/
theorem total_concat (c : TickClock) (polls : List Nat) (now : Nat) :
    c.total (polls ++ [now]) = c.total polls + ((c.after polls).ticksUntil now).toNat := by
  induction polls generalizing c with
  | nil => exact Nat.add_comm _ 0
  | cons first polls ih =>
    rw [List.cons_append, total_cons, ih, total_cons, Nat.add_assoc]
    rfl

/-- The last tick lies as many periods after the start as there were ticks. -/
theorem lastTick_after (c : TickClock) (polls : List Nat) :
    (c.after polls).lastTick = c.lastTick + period * c.total polls := by
  induction polls generalizing c with
  | nil => rfl
  | cons now polls ih =>
    calc ((c.poll now).after polls).lastTick
        = (c.poll now).lastTick + period * (c.poll now).total polls := ih _
      _ = c.lastTick + period * c.total (now :: polls) := by
          rw [lastTick_poll, total_cons, Nat.mul_add, Nat.add_assoc]

/-- The last tick is at the start, or no later than the latest poll. -/
theorem lastTick_after_le (c : TickClock) (polls : List Nat) :
    (c.after polls).lastTick ≤ max c.lastTick (latest polls) := by
  induction polls generalizing c with
  | nil => exact Nat.le_max_left _ _
  | cons now polls ih =>
    have hrest : ((c.poll now).after polls).lastTick ≤ _ := ih _
    have hfirst := c.lastTick_poll_le now
    rw [latest_cons]
    show ((c.poll now).after polls).lastTick ≤ _
    omega

/-- The clock never runs ahead of the latest poll. -/
theorem total_le (c : TickClock) (polls : List Nat) :
    c.total polls ≤ (latest polls - c.lastTick) / period := by
  have hlast := c.lastTick_after polls
  have hle := c.lastTick_after_le polls
  rw [Nat.le_div_iff_mul_le period_pos, Nat.mul_comm]
  omega

/-- A poll that does not go back makes the total the number of whole periods since the start, up to
a multiple of the 32-bit range. -/
theorem total_concat_mod (polls : List Nat) (hle : (c.after polls).lastTick ≤ now) :
    c.total (polls ++ [now]) % 4294967296 = (now - c.lastTick) / period % 4294967296 := by
  rw [lastTick_after] at hle
  -- the ticks so far are among the whole periods since the start
  have hticks : c.total polls ≤ (now - c.lastTick) / period := by
    rw [Nat.le_div_iff_mul_le period_pos, Nat.mul_comm]
    omega
  have hrest : (now - (c.after polls).lastTick) / period =
      (now - c.lastTick) / period - c.total polls := by
    rw [lastTick_after, Nat.sub_add_eq, Nat.sub_mul_div]
  rw [total_concat, toNat_ticksUntil, hrest]
  omega

/-- Whole periods up to the later of two times. -/
private theorem max_sub_div (a b start : Nat) :
    (max a b - start) / period = max ((a - start) / period) ((b - start) / period) := by
  rcases Nat.le_total a b with h | h
  · rw [Nat.max_eq_right h, Nat.max_eq_right (Nat.div_le_div_right (Nat.sub_le_sub_right h start))]
  · rw [Nat.max_eq_left h, Nat.max_eq_left (Nat.div_le_div_right (Nat.sub_le_sub_right h start))]

/-- The total is the number of whole periods up to the latest poll, if no poll is so late that a
report is cut. -/
theorem total_of_lt (polls : List Nat) (hpolls : ∀ t ∈ polls, t < c.lastTick + reach) :
    c.total polls = (latest polls - c.lastTick) / period := by
  induction polls generalizing c with
  | nil => rw [total_nil, latest, List.foldr_nil, Nat.zero_sub, Nat.zero_div]
  | cons now polls ih =>
    have hfirst := toNat_ticksUntil_of_lt (hpolls now List.mem_cons_self)
    have hrest := ih (c := c.poll now) fun t ht => by
      have := hpolls t (List.mem_cons_of_mem now ht)
      rw [lastTick_poll]
      omega
    -- the rest counts from a later tick, that is, without the ticks of the first report
    rw [lastTick_poll, Nat.sub_add_eq, Nat.sub_mul_div] at hrest
    rw [total_cons, latest_cons, hrest, hfirst, max_sub_div]
    omega

/-- **The clock neither loses nor invents ticks.** However a clock is polled, its last tick lies one
period after the start for each tick that it has reported, and it has reported no more ticks than
there are whole periods up to the latest poll. A poll at the last tick or before reports nothing and
changes nothing. A poll at a later time brings the total to the number of whole periods since the
start, modulo the range of a report. If no poll is so late that a report is cut, then the total is
the number of whole periods up to the latest poll, whatever the other polls were, and a poll that
does not go back leaves over less than a period. -/
theorem total_by_latest_poll (start : Nat) (polls : List Nat) :
    let new := startingAt start
    let c := new.after polls
    period = 16666666 ∧
    c.lastTick = start + period * new.total polls ∧
    new.total polls ≤ (latest polls - start) / period ∧
    (∀ t ≤ c.lastTick, c.ticksUntil t = 0 ∧ c.poll t = c) ∧
    (∀ t ≥ c.lastTick,
      new.total (polls ++ [t]) % 4294967296 = (t - start) / period % 4294967296) ∧
    ((∀ t ∈ polls, t < start + reach) →
      new.total polls = (latest polls - start) / period ∧
      (∀ others, (∀ t ∈ others, t < start + reach) → latest others = latest polls →
        new.total others = new.total polls) ∧
      ∀ t ≥ c.lastTick, t < start + reach →
        (c.poll t).lastTick ≤ t ∧ t - (c.poll t).lastTick < period) := by
  intro new c
  have hlast : c.lastTick = start + period * new.total polls := new.lastTick_after polls
  refine ⟨rfl, hlast, new.total_le polls, fun t => poll_of_le, fun t => total_concat_mod polls,
    fun hpolls => ?_⟩
  have htotal : new.total polls = (latest polls - start) / period := total_of_lt polls hpolls
  refine ⟨htotal, fun others hothers hlatest => ?_, fun t hle hlt => ?_⟩
  · have hsame : new.total others = (latest others - start) / period := total_of_lt others hothers
    rw [hsame, hlatest, htotal]
  · exact sub_lastTick_poll_lt hle (by omega)

/-- Four polls, two of which go back, the first of them to a time before the start. -/
theorem total_by_latest_poll_going_back :
    let polls := [1050000000, 0, 1100000000, 1030000000]
    (∀ t ∈ polls, t < 1000000000 + reach) ∧
      (startingAt 1000000000).total polls = 6 ∧
      ((startingAt 1000000000).after polls).lastTick = 1099999996 ∧
      (startingAt 1000000000).total (polls ++ [1116666662]) % 4294967296 = 7 := by
  intro polls
  have hpolls : ∀ t ∈ polls, t < 1000000000 + reach := by decide
  obtain ⟨-, hlast, -, -, hmod, hexact⟩ := total_by_latest_poll 1000000000 polls
  have htotal : (startingAt 1000000000).total polls = 6 := (hexact hpolls).1.trans (by decide)
  have hlastTick : ((startingAt 1000000000).after polls).lastTick = 1099999996 := by
    rw [hlast, htotal]
    rfl
  exact ⟨hpolls, htotal, hlastTick, hmod 1116666662 (by rw [hlastTick]; decide)⟩

/-- A poll so late that its report is cut to nothing. -/
example : (startingAt 0).total [reach] = 0 := by decide

end Chip8.TickClock
