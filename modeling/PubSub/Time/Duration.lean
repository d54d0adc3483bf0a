/-!
# Durations and instants

A duration is a whole number of nanoseconds, and its whole seconds fit into sixty-four bits.  That
bound is part of the type, so the operations that could pass it return an `Option`, and what
overflows is visible in their callers.  An instant is a signed number of nanoseconds since the clock
was started; a deadline may lie before the start.
-/

namespace PubSub

/-- The nanoseconds of a microsecond. -/
abbrev microsecond : Nat := 1_000

/-- The nanoseconds of a millisecond. -/
abbrev millisecond : Nat := 1_000_000

/-- The nanoseconds of a second. -/
abbrev second : Nat := 1_000_000_000

/-- The least number of nanoseconds that is too many for a span. -/
abbrev durationBound : Nat := UInt64.size * second

/-- A span of time in nanoseconds. -/
@[ext] structure Duration where
  nanos : Nat
  inRange : nanos < durationBound := by decide
  deriving DecidableEq, Repr

namespace Duration

/-- The empty span. -/
def zero : Duration where
  nanos := 0

/-- The longest representable span. -/
def longest : Duration where
  nanos := durationBound - 1

instance : Inhabited Duration := ⟨zero⟩

/-- The span of so many nanoseconds, if it is representable. -/
def ofNanos? (n : Nat) : Option Duration :=
  if h : n < durationBound then some ⟨n, h⟩ else none

/-- The span of so many microseconds. -/
def ofMicros (n : UInt64) : Duration where
  nanos := n.toNat * microsecond
  inRange := by
    have := n.toNat_lt
    simp only [durationBound, UInt64.size, second, microsecond]
    omega

/-- The span of so many milliseconds. -/
def ofMillis (n : UInt64) : Duration where
  nanos := n.toNat * millisecond
  inRange := by
    have := n.toNat_lt
    simp only [durationBound, UInt64.size, second, millisecond]
    omega

/-- Whole seconds of a span. -/
def seconds (d : Duration) : Nat := d.nanos / second

/-- Nanoseconds beyond the whole seconds. -/
def subsecond (d : Duration) : Nat := d.nanos % second

/-- Whether a span is empty. -/
def isZero (d : Duration) : Bool := d.nanos == 0

/-- The sum, if it is representable. -/
def add? (d e : Duration) : Option Duration := ofNanos? (d.nanos + e.nanos)

/-- The multiple, if it is representable. -/
def scale? (d : Duration) (k : Nat) : Option Duration := ofNanos? (d.nanos * k)

/-- The quotient, rounded down to whole nanoseconds. -/
def divide (d : Duration) (k : Nat) : Duration where
  nanos := d.nanos / k
  inRange := Nat.lt_of_le_of_lt (Nat.div_le_self _ _) d.inRange

/-- The shorter of two spans. -/
def shorter (d e : Duration) : Duration := if d.nanos ≤ e.nanos then d else e

theorem ofNanos?_eq_some_iff (n : Nat) (d : Duration) : ofNanos? n = some d ↔ d.nanos = n := by
  unfold ofNanos?
  constructor
  · intro h
    split at h
    · cases h; rfl
    · cases h
  · intro h
    subst h
    simp [d.inRange]

theorem nanos_shorter (d e : Duration) : (d.shorter e).nanos = min d.nanos e.nanos := by
  unfold shorter
  split <;> omega

end Duration

/-- Nanoseconds since the clock was started. -/
abbrev Instant := Int

namespace Instant

/-- Instants lie below this bound; a later one cannot be represented.  A clock counts seconds in
sixty-three bits, and before it was started here it may have run for as many of them as fit into
sixteen bits. -/
def horizon : Int := (Int.ofNat (UInt64.size / 2) - Int.ofNat UInt16.size) * Int.ofNat second

/-- The instant a span after another, if it is representable. -/
def after? (t : Instant) (d : Duration) : Option Instant :=
  if t + d.nanos < horizon then some (t + d.nanos) else none

/-- The time left until a deadline, in nanoseconds; none is left once it has passed. -/
def nanosUntil (now deadline : Instant) : Nat := (deadline - now).toNat

end Instant

end PubSub
