import PubSub.Retry.Strategy
import PubSub.Time.Clock

/-!
# Calls

A call is tried until an attempt succeeds or the strategy gives up.

The overall deadline is the caller's, or the start of the call plus the caller's usual time limit;
it does not move.  The first attempt has the overall deadline, and every further one the deadline
that the strategy sets when the attempt starts.  An attempt that has not finished when the timer for
its deadline rings fails, and the strategy is asked about it like about any other failure.  Timers
and delays are kept by the clock of whoever makes the call.

The run of a call is recorded in full: which attempts were made, when they started and ended, what
came out, and what the strategy was asked and answered.
-/

namespace PubSub

/-- One attempt of a call. -/
structure Attempt where
  /-- One for the first attempt. -/
  number : Nat
  deadline : Instant
  deriving DecidableEq, Repr

/-- The time left until the deadline of an attempt. -/
def Attempt.remaining (a : Attempt) (now : Instant) : Nat := Instant.nanosUntil now a.deadline

/-- What an attempt would do if it were given all the time it takes: finish after some time, or
never. -/
structure Work (α : Type) where
  takes : Option Duration
  result : Except Status α

/-- The failure of an attempt that ran out of time. -/
def outOfTime : Status where
  code := .deadlineExceeded
  message := "Request deadline exceeded"

namespace Work

variable {α : Type}

/-- Whether work that starts at `now` finishes no later than a timer rings.  Work that takes no time
finishes even after it. -/
def finishesBy (w : Work α) (now ring : Instant) : Bool :=
  match w.takes with
  | none => false
  | some d => d.isZero || now + d.nanos ≤ ring

/-- The instant at which an attempt ends that a timer cuts short. -/
def endsAt (w : Work α) (now ring : Instant) : Instant :=
  match w.takes with
  | none => max now ring
  | some d => if w.finishesBy now ring then now + d.nanos else max now ring

/-- What comes out of an attempt that a timer cuts short. -/
def outcome (w : Work α) (now ring : Instant) : Except Status α :=
  if w.finishesBy now ring then w.result else .error outOfTime

end Work

/-- The record of an attempt: what was tried, what came out, and what the strategy made of it. -/
structure Try (α : Type) where
  attempt : Attempt
  started : Instant
  ended : Instant
  outcome : Except Status α
  asked : Option (Failure × Verdict)

/-- How a run ended. -/
inductive Ending (α : Type) where
  | returned (outcome : Except Status α)
  /-- A delay or a deadline could not be represented. -/
  | overflow
  /-- The run was cut off before it ended. -/
  | unfinished

/-- The record of a call. -/
structure Run (α : Type) where
  tries : List (Try α)
  ending : Ending α
  /-- When the call ended. -/
  stopped : Instant

/-- Who makes calls: the strategy for failures, if any, the usual time limit, and the clock that
keeps deadlines and delays. -/
structure Caller where
  strategy : Option Strategy
  timeout : Duration
  clock : Clock := .exact

namespace Caller

variable {α : Type}

/-- The record that begins with one more attempt. -/
def cons (t : Try α) (r : Run α) : Run α := { r with tries := t :: r.tries }

/-- The record of a single attempt that ends the call. -/
def last (t : Try α) (ending : Ending α) : Run α where
  tries := [t]
  ending := ending
  stopped := t.ended

/-- The attempts from `a` on, which starts at `now`.  The first argument bounds their number. -/
def attempts (c : Caller) (method : String) (overall : Instant) (work : Attempt → Work α) :
    Nat → Attempt → Instant → Run α
  | 0, _, now => ⟨[], .unfinished, now⟩
  | fuel + 1, a, now =>
    let ring := c.clock.ring a.deadline
    let outcome := (work a).outcome now ring
    let ended := (work a).endsAt now ring
    match outcome, c.strategy with
    | .ok _, _ | .error _, none => last ⟨a, now, ended, outcome, none⟩ (.returned outcome)
    | .error status, some strategy =>
      let failure : Failure := ⟨status.code, method, a.number, overall⟩
      let verdict := strategy.decide ended failure
      let tried : Try α := ⟨a, now, ended, outcome, some (failure, verdict)⟩
      match verdict with
      | .giveUp => last tried (.returned outcome)
      | .overflow => last tried .overflow
      | .retryAfter delay =>
        let start := c.clock.wake ended delay
        match strategy.nextDeadline start overall with
        | none => last tried .overflow
        | some deadline =>
          cons tried (attempts c method overall work fuel ⟨a.number + 1, deadline⟩ start)

/-- The overall deadline of a call that starts at `now`; none if it cannot be represented. -/
def overallDeadline (c : Caller) (deadline : Option Instant) (now : Instant) : Option Instant :=
  match deadline with
  | some d => some d
  | none => Instant.after? now c.timeout

/-- Makes a call of at most `fuel` attempts. -/
def call (c : Caller) (method : String) (deadline : Option Instant) (work : Attempt → Work α)
    (now : Instant) (fuel : Nat) : Run α :=
  match c.overallDeadline deadline now with
  | none => ⟨[], .overflow, now⟩
  | some overall => c.attempts method overall work fuel ⟨1, overall⟩ now

end Caller

end PubSub
