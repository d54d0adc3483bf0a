import PubSub.Time.Duration

/-!
# Call timeouts

The time that a call may take, as it is told to the service: a number of at most eight digits and a
unit.  The unit is the finest in which the number, rounded down, is that short.
-/

namespace PubSub

/-- A unit of call timeouts: its letter and its length in nanoseconds. -/
structure TimeUnit where
  letter : Char
  nanos : Nat

/-- The units from the finest to the coarsest. -/
def timeUnits : List TimeUnit :=
  [⟨'n', 1⟩, ⟨'u', microsecond⟩, ⟨'m', millisecond⟩, ⟨'S', second⟩, ⟨'M', 60 * second⟩,
   ⟨'H', 3600 * second⟩]

/-- The least number with more than eight digits. -/
def timeoutBound : Nat := 100_000_000

/-- The text of a call timeout; spans of more than eleven thousand years have none. -/
def Duration.callTimeout? (d : Duration) : Option String :=
  (timeUnits.find? fun u => d.nanos / u.nanos < timeoutBound).map fun u =>
    toString (d.nanos / u.nanos) ++ u.letter.toString

end PubSub
