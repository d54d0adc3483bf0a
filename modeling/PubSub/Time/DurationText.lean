import PubSub.Time.Duration

/-!
# Diagnostic text of durations

A duration is written in the largest of the units second, millisecond, microsecond and nanosecond
in which it is at least one, with a decimal fraction from which trailing zeros are removed.
-/

namespace PubSub.Duration

/-- The digits of `value`, padded with zeros on the left to `width` digits. -/
def paddedDigits (width value : Nat) : List Char :=
  let digits := Nat.toDigits 10 value
  List.replicate (width - digits.length) '0' ++ digits

/-- A fraction of `width` decimals as a point and digits; nothing when it is zero. -/
def fractionChars (width value : Nat) : List Char :=
  let digits := ((paddedDigits width value).reverse.dropWhile (· == '0')).reverse
  if value == 0 then [] else '.' :: digits

/-- A number of nanoseconds in a unit of `size` of them, which is a one with `width` zeros. -/
def inUnit (nanos size width : Nat) (unit : String) : String :=
  toString (nanos / size) ++ String.ofList (fractionChars width (nanos % size)) ++ unit

/-- The diagnostic text of a duration. -/
def text (d : Duration) : String :=
  if second ≤ d.nanos then inUnit d.nanos second 9 "s"
  else if millisecond ≤ d.nanos then inUnit d.nanos millisecond 6 "ms"
  else if microsecond ≤ d.nanos then inUnit d.nanos microsecond 3 "µs"
  else inUnit d.nanos 1 0 "ns"

end PubSub.Duration
