import PubSub.Retry.Eligibility
import PubSub.Retry.Strategy
import PubSub.Text.Blank
import PubSub.Text.Record
import PubSub.Time.DurationText

/-!
# Policies

The strategies that a client can be configured with.

* `never` gives up on every failure.
* `counted` retries eligible failures at once, a given number of times.
* `backoff` waits between retries of eligible failures.  The base delay grows by a factor with each
  attempt up to a cap; the delay is drawn from the window between the base delay and three times the
  base delay divided by the factor.
* `windowed` retries eligible failures and attempts that ran out of time until the overall deadline,
  at roughly constant intervals, and gives each further attempt a window of its own.

Chance enters through a `Draw`, so that a policy with its draws is a strategy like any other.
-/

namespace PubSub

/-- A draw from a window of any width. -/
structure Draw where
  pick : Nat → Nat
  pick_le : ∀ width, pick width ≤ width

namespace Draw

/-- The draw that picks the start of every window. -/
def least : Draw where
  pick _ := 0
  pick_le _ := Nat.zero_le _

/-- The draw that picks `part` of `whole` equal parts of every window, rounded to the nearest
number. -/
def fraction (part whole : Nat) (h : part ≤ whole) : Draw where
  pick width := (2 * (width * part) + whole) / (2 * whole)
  pick_le width := by
    rcases Nat.eq_zero_or_pos whole with hw | hw
    · subst hw; simp
    · have : width * part ≤ width * whole := Nat.mul_le_mul_left _ h
      refine Nat.le_of_lt_succ (Nat.div_lt_of_lt_mul ?_)
      rw [Nat.mul_succ, Nat.mul_assoc, Nat.mul_comm whole width]
      omega

end Draw

/-! ## Growing delays -/

/-- The parameters of growing delays. -/
structure Backoff where
  initial : Duration := .ofMicros 500
  growth : Nat := 2
  cap : Duration := .ofMillis 8
  two_le_growth : 2 ≤ growth := by omega
  growth_lt : growth < UInt32.size := by decide

namespace Backoff

def withInitial (b : Backoff) (d : Duration) : Backoff := { b with initial := d }

/-- Sets the growth factor; factors below two are raised to two. -/
def withGrowth (b : Backoff) (g : UInt32) : Backoff :=
  { b with
    growth := max g.toNat 2
    two_le_growth := Nat.le_max_right _ _
    growth_lt := by have := g.toNat_lt; simp only [UInt32.size]; omega }

def withCap (b : Backoff) (d : Duration) : Backoff := { b with cap := d }

/-- The largest factor by which a delay grows. -/
def factorLimit : Nat := UInt32.size - 1

/-- The factor by which the first delay has grown at an attempt. -/
def factor (b : Backoff) (attempt : Nat) : Nat :=
  if 32 ≤ attempt - 1 then factorLimit else min (b.growth.pow (attempt - 1)) factorLimit

/-- The base delay of an attempt. -/
def base (b : Backoff) (attempt : Nat) : Duration :=
  match b.initial.scale? (b.factor attempt) with
  | some d => d.shorter b.cap
  | none => b.cap

theorem nanos_base_le (b : Backoff) (attempt : Nat) : (b.base attempt).nanos ≤ b.cap.nanos := by
  unfold base
  split
  · rw [Duration.nanos_shorter]
    exact Nat.min_le_right _ _
  · exact Nat.le_refl _

/-- The upper end of the window whose lower end is the given base delay; none if it cannot be
represented. -/
def upper? (b : Backoff) (base : Duration) : Option Duration := (base.divide b.growth).scale? 3

def delay (b : Backoff) (attempt : Nat) (draw : Draw) : Verdict :=
  let base := b.base attempt
  match b.upper? base with
  | none => .overflow
  | some upper =>
    if upper.nanos ≤ base.nanos then .retryAfter base
    else
      match Duration.ofNanos? (base.nanos + draw.pick (upper.nanos - base.nanos)) with
      | some d => .retryAfter d
      | none => .overflow

end Backoff

/-! ## Constant intervals -/

/-- The delay drawn around an interval: between nine and eleven tenths of it, the upper end
excluded, to a tenth of a nanosecond, and then rounded to the nearest nanosecond. -/
def delayAround (interval : Duration) (draw : Draw) : Verdict :=
  match Duration.ofNanos? ((9 * interval.nanos + draw.pick (2 * interval.nanos - 1) + 5) / 10) with
  | some d => .retryAfter d
  | none => .overflow

/-! ## Policies -/

/-- A strategy that a client can be configured with. -/
inductive Policy where
  | never
  | counted (eligibility : Eligibility := .standard) (retries : Nat := 3)
  | backoff (eligibility : Eligibility := .standard) (parameters : Backoff := {})
  | windowed (eligibility : Eligibility := .standard)
      (window : Duration := .ofMillis 1000) (interval : Duration := .ofMillis 100)

namespace Policy

/-- What a policy does about a failure at an instant. -/
def decide (draw : Draw) (now : Instant) (f : Failure) : Policy → Verdict
  | never => .giveUp
  | counted eligibility retries =>
    if eligibility.accepts f.code f.method && f.attempt ≤ retries then .retryAfter .zero
    else .giveUp
  | backoff eligibility parameters =>
    if eligibility.accepts f.code f.method then parameters.delay f.attempt draw else .giveUp
  | windowed eligibility _ interval =>
    if f.overall ≤ now then .giveUp
    else if f.code == .deadlineExceeded || eligibility.accepts f.code f.method then
      delayAround interval draw
    else .giveUp

/-- The deadline that a window sets: its end or the overall deadline, whichever is earlier. -/
def windowEnd (window : Duration) (now overall : Instant) : Option Instant :=
  (Instant.after? now window).map fun e => min e overall

/-- The strategy of a policy with a draw for every failure. -/
def strategy (p : Policy) (draws : Failure → Draw) : Strategy where
  decide now f := p.decide (draws f) now f
  attemptDeadline :=
    match p with
    | windowed _ window _ => some (windowEnd window)
    | _ => none

/-- The diagnostic text of a policy. -/
def text : Policy → String
  | never => "NeverRetryStrategy"
  | counted eligibility retries =>
    Text.recordText "FixedCountRetryStrategy"
      [("eligibility", eligibility.name), ("max_attempts", toString retries)]
  | backoff eligibility b =>
    Text.recordText "ExponentialBackoffRetryStrategy"
      [("eligibility", eligibility.name), ("initial_delay", b.initial.text),
       ("growth_factor", toString b.growth), ("max_backoff", b.cap.text)]
  | windowed eligibility window interval =>
    Text.recordText "FixedTimeoutRetryStrategy"
      [("eligibility", eligibility.name), ("retry_timeout", window.text),
       ("retry_delay_interval", interval.text)]

end Policy

/-! ## Names of policies -/

/-- The policies that settings can name. -/
inductive PolicyKind where
  | never
  | counted
  | backoff
  | windowed
  deriving DecidableEq, Repr

namespace PolicyKind

/-- The policy that applies unless another is named. -/
def standard : PolicyKind := counted

instance : Inhabited PolicyKind := ⟨standard⟩

/-- Every kind. -/
def all : List PolicyKind := [never, counted, backoff, windowed]

/-- The word that names a policy in settings. -/
def word : PolicyKind → String
  | never => "never"
  | counted => "fixed-count"
  | backoff => "exponential"
  | windowed => "fixed-timeout"

/-- The kind that a word names, in capital or small letters. -/
def ofWord? (s : String) : Option PolicyKind :=
  all.find? fun k => k.word == Text.lowerAscii s

/-- The policy of a kind, with its standard parameters. -/
def policy : PolicyKind → Policy
  | never => .never
  | counted => .counted
  | backoff => .backoff
  | windowed => .windowed

end PolicyKind

end PubSub
