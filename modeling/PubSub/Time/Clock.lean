import PubSub.Time.Duration

/-!
# Clocks

Timers are kept by a clock that advances in steps.  A timer that is set for an instant rings at the
first step at or after it, so a wait is rounded up and never cut short; only a wait beyond the
longest one that the clock knows ends early.  The exact clock has steps of a nanosecond and knows
every span.

* `le_ring`, `ring_lt`: a timer rings at its instant or less than a step later.
* `ring_exact`: on the exact clock it rings at its instant.
-/

namespace PubSub

/-- The steps of a clock, in nanoseconds, and its longest wait. -/
structure Clock where
  step : Nat
  longest : Duration
  step_pos : 0 < step

namespace Clock

/-- A clock that keeps every instant. -/
def exact : Clock where
  step := 1
  longest := .longest
  step_pos := Nat.one_pos

/-- The nanoseconds of thirty years of three hundred and sixty-five days. -/
abbrev thirtyYears : Nat := 30 * 365 * 24 * 3600 * second

/-- A clock with steps of a millisecond, on which no wait is longer than thirty years. -/
def coarse : Clock where
  step := millisecond
  longest := { nanos := thirtyYears }
  step_pos := by decide

/-- The instant at which a timer rings. -/
def ring (c : Clock) (t : Instant) : Instant := -(-t / (c.step : Int)) * c.step

/-- The wait that comes of asking for one. -/
def wait (c : Clock) (d : Duration) : Duration := d.shorter c.longest

/-- The instant at which a sleep ends. -/
def sleep (c : Clock) (now : Instant) (d : Duration) : Instant := c.ring (now + (c.wait d).nanos)

/-- The instant at which a delay is over.  A delay of no length is not slept through, and takes no
time. -/
def wake (c : Clock) (now : Instant) (d : Duration) : Instant :=
  if d.isZero then now else c.sleep now d

theorem le_ring (c : Clock) (t : Int) : t ≤ c.ring t := by
  have h : (0 : Int) < c.step := Int.natCast_pos.mpr c.step_pos
  have := Int.ediv_mul_le (-t) (Int.ne_of_gt h)
  show t ≤ -(-t / (c.step : Int)) * c.step
  rw [Int.neg_mul]
  omega

theorem ring_lt (c : Clock) (t : Int) : c.ring t < t + c.step := by
  have h : (0 : Int) < c.step := Int.natCast_pos.mpr c.step_pos
  have := Int.lt_ediv_add_one_mul_self (-t) h
  show -(-t / (c.step : Int)) * c.step < t + c.step
  rw [Int.neg_mul]
  rw [Int.add_mul] at this
  omega

@[simp] theorem ring_exact (t : Instant) : exact.ring t = t := by
  simp [ring, exact]

end Clock

end PubSub
