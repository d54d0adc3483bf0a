/-!
# Decimal numerals of bounded size

Reading an unsigned decimal numeral below a bound.  One plus sign may stand in front.  The digits
are read from left to right and the first fault met is the one reported, so a numeral that is too
long and ends in a stray character is reported as too large when the bound is passed before the
stray character is reached.
-/

namespace PubSub.Text

/-- Why a numeral is refused. -/
inductive NumeralError where
  | empty
  | invalidDigit
  | tooLarge
  deriving DecidableEq, Repr

/-- The wording of each refusal. -/
def NumeralError.message : NumeralError → String
  | .empty => "cannot parse integer from empty string"
  | .invalidDigit => "invalid digit found in string"
  | .tooLarge => "number too large to fit in target type"

/-- The value of a decimal digit. -/
def digit? (c : Char) : Option Nat :=
  if '0' ≤ c ∧ c ≤ '9' then some (c.toNat - '0'.toNat) else none

/-- Continues a number whose value so far is `value`; every value met must stay below `bound`. -/
def readDigits (bound value : Nat) : List Char → Except NumeralError Nat
  | [] => .ok value
  | c :: rest =>
    match digit? c with
    | none => .error .invalidDigit
    | some d =>
      if value * 10 + d < bound then readDigits bound (value * 10 + d) rest else .error .tooLarge

/-- Reads an unsigned numeral whose value is below `bound`. -/
def readNumeral (bound : Nat) : List Char → Except NumeralError Nat
  | [] => .error .empty
  | ['+'] => .error .invalidDigit
  | '+' :: digits => readDigits bound 0 digits
  | digits => readDigits bound 0 digits

/-- The least value that no longer fits into thirty-two bits. -/
def wordBound : Nat := UInt32.size

/-- The least value that no longer fits into sixty-four bits. -/
def longBound : Nat := UInt64.size

end PubSub.Text
