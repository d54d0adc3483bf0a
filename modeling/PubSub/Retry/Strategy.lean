import PubSub.Rpc.Status
import PubSub.Time.Duration

/-!
# Strategies

A strategy looks at a failed attempt and either gives up or says how long to wait before the next
one.  Some strategies also set a deadline for each further attempt; the others leave it at the
overall deadline.
-/

namespace PubSub

/-- What a strategy gets to know about a failed attempt. -/
structure Failure where
  code : StatusCode
  method : String
  /-- One for the first attempt. -/
  attempt : Nat
  /-- The deadline of the whole call. -/
  overall : Instant
  deriving DecidableEq, Repr

/-- The answer of a strategy. -/
inductive Verdict where
  | giveUp
  | retryAfter (delay : Duration)
  /-- The delay is longer than any duration. -/
  | overflow
  deriving DecidableEq, Repr

namespace Verdict

/-- The delay before the next attempt, if there is one. -/
def delay? : Verdict → Option Duration
  | retryAfter d => some d
  | _ => none

/-- Whether there is a next attempt. -/
def retries (v : Verdict) : Bool := v.delay?.isSome

end Verdict

/-- A rule for failed attempts. -/
structure Strategy where
  /-- What to do about a failure at an instant. -/
  decide : Instant → Failure → Verdict
  /-- The deadline of a further attempt that starts at an instant, given the overall deadline;
  none if it cannot be represented. -/
  attemptDeadline : Option (Instant → Instant → Option Instant) := none

namespace Strategy

/-- Whether a strategy sets the deadlines of further attempts. -/
def deadlineAware (s : Strategy) : Bool := s.attemptDeadline.isSome

/-- The deadline of a further attempt that starts at `now`. -/
def nextDeadline (s : Strategy) (now overall : Instant) : Option Instant :=
  match s.attemptDeadline with
  | some deadline => deadline now overall
  | none => some overall

/-- A strategy that answers attempt `k` by the delay at place `k` of a list, counted from one. -/
def scripted (delays : List (Option Duration))
    (attemptDeadline : Option (Instant → Instant → Option Instant)) : Strategy where
  decide _ failure :=
    match delays[failure.attempt - 1]? with
    | some (some delay) => .retryAfter delay
    | _ => .giveUp
  attemptDeadline := attemptDeadline

end Strategy

end PubSub
