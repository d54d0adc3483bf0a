import Mathlib.Algebra.Order.Floor.Div
import Mathlib.Order.Bounds.Basic
import PubSub.Proofs.Retry.Deadline

/-!
# Termination

How many attempts a call makes under the policies that limit them.

The loop has no limit of its own.  Counted retries end because the number of the attempt grows, and
the attempts are known in advance: each starts where the one before it ends.  Retries at constant
intervals end because the time that is left until the overall deadline shrinks, by the length of a
delay each time, however short the attempts are.

* `Caller.length_of_unfinished`, `Caller.returned_or_unfinished`: a call that does not return was
  cut off, and had made as many attempts as it might.
* `Caller.repeated`: the attempts of a call that goes on at once after each of them.
* `Caller.attempts_counted`: a call with counted retries makes these until one of them settles it.
* `Caller.Spaced`: delays around an interval; `Caller.exists_draws`: there may be any such delays.
* `Caller.length_attempts_le`: a call with constant intervals makes one attempt for each interval
  that starts before the deadline, and one more.
* `retries_bounded`: both bounds, for whole calls.
-/

namespace PubSub

variable {α : Type}

/-! ## Calls that are cut off -/

namespace Caller

variable {c : Caller} {method : String} {overall : Instant} {work : Attempt → Work α}

/-- A call that was cut off had made as many attempts as it might. -/
theorem length_of_unfinished (fuel : Nat) (a : Attempt) (now : Instant)
    (h : (c.attempts method overall work fuel a now).ending = .unfinished) :
    (c.attempts method overall work fuel a now).tries.length = fuel := by
  induction fuel generalizing a now with
  | zero => rfl
  | succ fuel ih =>
    rcases c.attempts_succ method overall work a now with
      ⟨_, hrun⟩ | hrun | ⟨b, start, _, _, hrun⟩
    · rw [hrun] at h
      cases h
    · rw [hrun] at h
      cases h
    · rw [hrun] at h ⊢
      exact congrArg (· + 1) (ih b start h)

/-- A call returns or is cut off, if from every attempt that does not end it another one can go
on. -/
theorem returned_or_unfinished
    (hnext : ∀ a now, c.Ends method overall (c.tryOnce method overall work a now) ∨
      ∃ b start, c.GoesOn method overall (c.tryOnce method overall work a now)
        (c.tryOnce method overall work b start))
    (fuel : Nat) (a : Attempt) (now : Instant) :
    (∃ outcome, (c.attempts method overall work fuel a now).ending = .returned outcome) ∨
      (c.attempts method overall work fuel a now).ending = .unfinished := by
  induction fuel generalizing a now with
  | zero => exact Or.inr rfl
  | succ fuel ih =>
    rcases hnext a now with hends | ⟨b, start, hgo⟩
    · rw [attempts_of_ends hends]
      exact Or.inl ⟨_, rfl⟩
    · rw [attempts_of_goesOn hgo]
      exact ih b start

/-! ## Counted retries -/

/-- The attempts of a call that goes on at once after each of them, all with the overall
deadline. -/
def repeated (c : Caller) (method : String) (overall : Instant) (work : Attempt → Work α)
    (a : Attempt) (now : Instant) : Nat → Try α
  | 0 => c.tryOnce method overall work a now
  | n + 1 =>
    c.repeated method overall work ⟨a.number + 1, overall⟩
      (c.tryOnce method overall work a now).ended n

theorem number_repeated (a : Attempt) (now : Instant) (n : Nat) :
    (c.repeated method overall work a now n).attempt.number = a.number + n := by
  induction n generalizing a now with
  | zero => rfl
  | succ n ih =>
    calc (c.repeated method overall work a now (n + 1)).attempt.number
        = a.number + 1 + n := ih _ _
      _ = a.number + (n + 1) := Nat.add_right_comm a.number 1 n

/-- An attempt settles a call with counted retries: it succeeds, or its failure is not eligible, or
there are no retries left. -/
inductive Settles (rules : Failure → Eligibility) (retries : Nat) (method : String)
    (overall : Instant) (t : Try α) : Prop where
  | success (x : α) (h : t.outcome = .ok x)
  | ineligible (failure : Failure)
      (hf : failure? method overall t.attempt.number t.outcome = some failure)
      (h : (rules failure).accepts failure.code failure.method = false)
  | exhausted (h : t.attempt.number = retries + 1)

section Counted

variable {rule : Eligibility} {retries : Nat} {rules : Failure → Eligibility}
  {draws : Failure → Draw}

/-- An attempt that settles the call ends it. -/
theorem ends_of_settles
    (hs : c.strategy = some ((Policy.counted rule retries).ruled rules draws)) {t : Try α}
    (h : Settles rules retries method overall t) : c.Ends method overall t := by
  cases hout : t.outcome with
  | ok x => exact .success x hout
  | error status =>
    have hf : failure? method overall t.attempt.number t.outcome =
        some ⟨status.code, method, t.attempt.number, overall⟩ := failure?_of_error hout
    refine .givenUp _ _ hs hf ?_
    -- of the ways to settle a call, two are left for a failure
    cases h with
    | success x hx =>
      rw [hout] at hx
      cases hx
    | ineligible failure hf' hno =>
      obtain rfl := Option.some.inj (hf.symm.trans hf')
      simp [Policy.ruled, Policy.under, Policy.decide, hno]
    | exhausted hnumber => simp [Policy.ruled, Policy.under, Policy.decide, hnumber]

/-- After an attempt that does not settle the call the next one goes on at once. -/
theorem goesOn_of_not_settles
    (hs : c.strategy = some ((Policy.counted rule retries).ruled rules draws)) {a : Attempt}
    {now : Instant} (ha : a.number ≤ retries + 1)
    (h : ¬ Settles rules retries method overall (c.tryOnce method overall work a now)) :
    c.GoesOn method overall (c.tryOnce method overall work a now)
      (c.tryOnce method overall work ⟨a.number + 1, overall⟩
        (c.tryOnce method overall work a now).ended) := by
  let t := c.tryOnce method overall work a now
  cases hout : t.outcome with
  | ok x => exact absurd (.success x hout) h
  | error status =>
    have hf : failure? method overall t.attempt.number t.outcome =
        some ⟨status.code, method, a.number, overall⟩ := failure?_of_error hout
    have heligible : (rules ⟨status.code, method, a.number, overall⟩).accepts status.code method =
        true := by
      by_contra hno
      exact h (.ineligible _ hf (by simpa using hno))
    have hleft : a.number ≤ retries := by
      by_contra hnone
      exact h (.exhausted (show a.number = retries + 1 by omega))
    have hv : ((Policy.counted rule retries).ruled rules draws).decide t.ended
        ⟨status.code, method, a.number, overall⟩ = .retryAfter .zero := by
      simp [Policy.ruled, Policy.under, Policy.decide, heligible, hleft]
    refine ⟨rfl, _, _, .zero, hs, hf, hv, rfl, ?_, rfl⟩
    intro _
    exact (Int.add_zero _).symm

/-- A call with counted retries makes the attempts of a call that goes on at once, up to the first
one that settles it, and returns the outcome of that. -/
theorem attempts_counted
    (hs : c.strategy = some ((Policy.counted rule retries).ruled rules draws)) {left : Nat}
    {a : Attempt} (ha : a.number + left = retries + 1) (now : Instant) :
    let t := c.repeated method overall work a now
    ∃ n, IsLeast {i | Settles rules retries method overall (t i)} n ∧ n ≤ left ∧
      ∀ fuel, left < fuel → c.attempts method overall work fuel a now =
        { tries := (List.range (n + 1)).map t
          ending := .returned (t n).outcome
          stopped := (t n).ended } := by
  -- on the number of retries that are left
  induction left generalizing a now with
  | zero =>
    have hlast : Settles rules retries method overall (c.tryOnce method overall work a now) :=
      .exhausted ha
    refine ⟨0, ⟨hlast, fun i _ => Nat.zero_le i⟩, Nat.le_refl _, ?_⟩
    intro fuel hfuel
    obtain ⟨fuel, rfl⟩ := Nat.exists_eq_succ_of_ne_zero (Nat.ne_of_gt hfuel)
    exact attempts_of_ends (ends_of_settles hs hlast) fuel
  | succ left ih =>
    by_cases hsettles : Settles rules retries method overall (c.tryOnce method overall work a now)
    · refine ⟨0, ⟨hsettles, fun i _ => Nat.zero_le i⟩, Nat.zero_le _, ?_⟩
      intro fuel hfuel
      obtain ⟨fuel, rfl⟩ := Nat.exists_eq_succ_of_ne_zero (Nat.ne_of_gt (Nat.zero_lt_of_lt hfuel))
      exact attempts_of_ends (ends_of_settles hs hsettles) fuel
    · have hgo := goesOn_of_not_settles hs (by omega) hsettles
      -- the attempts after this one are those of a call that begins with the next
      obtain ⟨n, ⟨hn, hleast⟩, hle, hrun⟩ := ih (a := ⟨a.number + 1, overall⟩)
        (show a.number + 1 + left = retries + 1 by omega)
        (c.tryOnce method overall work a now).ended
      refine ⟨n + 1, ⟨hn, ?_⟩, Nat.succ_le_succ hle, ?_⟩
      · intro i hi
        cases i with
        | zero => exact absurd hi hsettles
        | succ i => exact Nat.succ_le_succ (hleast hi)
      · intro fuel hfuel
        obtain ⟨fuel, rfl⟩ := Nat.exists_eq_succ_of_ne_zero (Nat.ne_of_gt (Nat.zero_lt_of_lt hfuel))
        rw [attempts_of_goesOn hgo, hrun fuel (Nat.lt_of_succ_lt_succ hfuel)]
        simp only [cons, List.range_succ_eq_map (n := n + 1), List.map_cons, List.map_map]
        rfl

end Counted

/-! ## Constant intervals -/

/-- The delays that are drawn around an interval: none is shorter than nine tenths of it or longer
than eleven tenths, and the clock keeps them to their end. -/
structure Spaced (clock : Clock) (interval : Duration) (draws : Failure → Draw) : Prop where
  pos : 0 < interval.nanos
  drawn : ∀ f, ∃ delay, delayAround interval (draws f) = .retryAfter delay ∧
    9 * interval.nanos ≤ 10 * delay.nanos ∧ 10 * delay.nanos ≤ 11 * interval.nanos ∧
    delay.nanos ≤ clock.longest.nanos

theorem Spaced.delay {clock : Clock} {interval delay : Duration} {draws : Failure → Draw}
    (h : Spaced clock interval draws) {f : Failure}
    (hdelay : delayAround interval (draws f) = .retryAfter delay) :
    9 * interval.nanos ≤ 10 * delay.nanos ∧ 10 * delay.nanos ≤ 11 * interval.nanos ∧
      delay.nanos ≤ clock.longest.nanos := by
  rcases h.drawn f with ⟨drawn, hdrawn, hbounds⟩
  cases hdrawn.symm.trans hdelay
  exact hbounds

/-- Whatever delays there are between nine and eleven tenths of an interval, they can be drawn. -/
theorem exists_draws {interval : Duration} {delays : Failure → Duration}
    (h : ∀ f, 9 * interval.nanos ≤ 10 * (delays f).nanos ∧
      10 * (delays f).nanos ≤ 11 * interval.nanos) :
    ∃ draws : Failure → Draw, ∀ f, delayAround interval (draws f) = .retryAfter (delays f) := by
  -- the delay is what a draw of its distance from the start of the window is rounded to
  let draws (f : Failure) : Draw :=
    { pick := fun width => min width (10 * (delays f).nanos - 9 * interval.nanos - 1)
      pick_le := fun width => Nat.min_le_left _ _ }
  refine ⟨draws, ?_⟩
  intro f
  have hnanos : (9 * interval.nanos + (draws f).pick (2 * interval.nanos - 1) + 5) / 10 =
      (delays f).nanos := by
    have hbounds := h f
    show (9 * interval.nanos +
      min (2 * interval.nanos - 1) (10 * (delays f).nanos - 9 * interval.nanos - 1) + 5) / 10 = _
    omega
  have hrep : Duration.ofNanos? (delays f).nanos = some (delays f) :=
    (Duration.ofNanos?_eq_some_iff _ _).2 rfl
  rw [delayAround, hnanos, hrep]

end Caller

namespace Clock

/-- A sleep that the clock keeps to its end lasts at least as long as was asked for. -/
theorem add_le_wake {c : Clock} {d : Duration} (h : d.nanos ≤ c.longest.nanos) (now : Int) :
    now + d.nanos ≤ c.wake now d := by
  have hwait : (c.wait d).nanos = d.nanos := by
    rw [wait, Duration.nanos_shorter, Nat.min_eq_left h]
  unfold wake sleep
  split
  · rename_i hzero
    rw [Duration.nanos_of_isZero hzero]
    exact Int.le_of_eq (Int.add_zero now)
  · calc now + d.nanos = now + (c.wait d).nanos := by rw [hwait]
      _ ≤ c.ring (now + (c.wait d).nanos) := c.le_ring _

/-- A sleep ends less than a step after the time that was asked for. -/
theorem wake_lt (c : Clock) (now : Int) (d : Duration) :
    c.wake now d < now + d.nanos + c.step := by
  have hstep : (0 : Int) < c.step := Int.natCast_pos.mpr c.step_pos
  have hwait : (c.wait d).nanos ≤ d.nanos := by
    rw [wait, Duration.nanos_shorter]
    exact Nat.min_le_left _ _
  unfold wake sleep
  split
  · calc now ≤ now + d.nanos := d.le_add now
      _ < now + d.nanos + c.step := Int.lt_add_of_pos_right _ hstep
  · calc c.ring (now + (c.wait d).nanos) < now + (c.wait d).nanos + c.step := c.ring_lt _
      _ ≤ now + d.nanos + c.step :=
        Int.add_le_add_right (Int.add_le_add_left (Int.ofNat_le.2 hwait) now) _

end Clock

namespace Caller

variable {c : Caller} {method : String} {overall : Instant} {work : Attempt → Work α}
  {rule : Eligibility} {window interval : Duration} {rules : Failure → Eligibility}
  {draws : Failure → Draw}

/-- The time that is left goes down by what passes before the deadline and by a wait after that, or
none is left. -/
theorem nanosUntil_add_le {now ended start overall : Int} {wait : Nat} (hended : now ≤ ended)
    (hbefore : ended < overall) (hstart : ended + wait ≤ start) :
    0 < Instant.nanosUntil now overall ∧ (Instant.nanosUntil start overall = 0 ∨
      Instant.nanosUntil start overall + wait ≤ Instant.nanosUntil now overall) := by
  have hnow : (Instant.nanosUntil now overall : Int) = max (overall - now) 0 :=
    Int.ofNat_toNat (overall - now)
  have hnext : (Instant.nanosUntil start overall : Int) = max (overall - start) 0 :=
    Int.ofNat_toNat (overall - start)
  omega

/-- The time that is left shrinks by nine tenths of an interval from one attempt to the next, or
none is left. -/
theorem GoesOn.shrinks
    (hs : c.strategy = some ((Policy.windowed rule window interval).ruled rules draws))
    (hspaced : Spaced c.clock interval draws) {a b : Attempt} {now start : Instant}
    (h : c.GoesOn method overall (c.tryOnce method overall work a now)
      (c.tryOnce method overall work b start)) :
    0 < Instant.nanosUntil now overall ∧
      (Instant.nanosUntil start overall = 0 ∨
        10 * Instant.nanosUntil start overall + 9 * interval.nanos ≤
          10 * Instant.nanosUntil now overall) := by
  rcases h.asked hs with ⟨failure, delay, -, hv, hoverall, hstart, -⟩
  rcases Policy.decide_windowed hv with ⟨hbefore, hdelay⟩
  rcases hspaced.delay hdelay with ⟨hlong, -, hkept⟩
  -- the attempt ended before the deadline, and the next one starts a delay later
  have hended : now ≤ (c.tryOnce method overall work a now).ended :=
    Work.le_endsAt _ _ _
  have hslept := Clock.add_le_wake hkept (c.tryOnce method overall work a now).ended
  rw [← hstart] at hslept
  rcases nanosUntil_add_le hended (hoverall ▸ hbefore) hslept with ⟨hleft, hnone | hless⟩
  · exact ⟨hleft, Or.inl hnone⟩
  · exact ⟨hleft, Or.inr (by omega)⟩

/-- A part that is missing from a number makes for one more when both are counted in such parts. -/
theorem ceilDiv_lt_ceilDiv {part rest whole : Nat} (hpart : 0 < part) (hwhole : 0 < whole)
    (h : rest = 0 ∨ rest + part ≤ whole) : rest ⌈/⌉ part < whole ⌈/⌉ part := by
  have hcovered : whole ≤ part * (whole ⌈/⌉ part) := le_smul_ceilDiv hpart
  cases hcount : whole ⌈/⌉ part with
  | zero =>
    rw [hcount, Nat.mul_zero] at hcovered
    omega
  | succ count =>
    rw [hcount, Nat.mul_succ] at hcovered
    have hrest : rest ≤ part * count := by omega
    exact Nat.lt_succ_of_le ((ceilDiv_le_iff_le_mul hpart).2 hrest)

/-- A call with constant intervals makes at most one attempt for each of them that starts before the
deadline, and one more. -/
theorem length_attempts_le
    (hs : c.strategy = some ((Policy.windowed rule window interval).ruled rules draws))
    (hspaced : Spaced c.clock interval draws) (fuel : Nat) (a : Attempt) (now : Instant) :
    (c.attempts method overall work fuel a now).tries.length ≤
      1 + (10 * Instant.nanosUntil now overall) ⌈/⌉ (9 * interval.nanos) := by
  have hpos : 0 < 9 * interval.nanos := Nat.mul_pos (by decide) hspaced.pos
  -- the time that is left carries the bound from one attempt to the next
  induction fuel generalizing a now with
  | zero => exact Nat.zero_le _
  | succ fuel ih =>
    rcases c.tries_succ method overall work fuel a now with hlast | ⟨b, start, hgo, hmore⟩
    · rw [hlast]
      exact Nat.le_add_right _ _
    · rcases hgo.shrinks hs hspaced with ⟨hleft, hshrinks⟩
      have hless := ceilDiv_lt_ceilDiv hpos (Nat.mul_pos (by decide : 0 < 10) hleft)
        (hshrinks.imp_left fun hnone => congrArg (10 * ·) hnone)
      have hrest := ih b start
      rw [hmore]
      calc (c.attempts method overall work fuel b start).tries.length + 1
          ≤ 1 + (10 * Instant.nanosUntil start overall) ⌈/⌉ (9 * interval.nanos) + 1 :=
            Nat.succ_le_succ hrest
        _ ≤ 1 + (10 * Instant.nanosUntil now overall) ⌈/⌉ (9 * interval.nanos) := by omega

/-- After a delay that is answered before the overall deadline a window still fits below a bound, if
one fits there after the longest delay. -/
theorem add_window_lt {ended start overall bound : Int} {step wait window interval : Nat}
    (hbefore : ended < overall) (hstart : start < ended + wait + step)
    (hwait : 10 * wait ≤ 11 * interval)
    (hahead : 10 * (overall + step + window) + 11 * interval ≤ 10 * bound) :
    start + window < bound := by
  omega

/-- With constant intervals another attempt can go on from every one that does not end the call, as
long as what comes after the overall deadline can be represented. -/
theorem ends_or_goesOn
    (hs : c.strategy = some ((Policy.windowed rule window interval).ruled rules draws))
    (hspaced : Spaced c.clock interval draws)
    (hahead : 10 * (overall + c.clock.step + window.nanos) + 11 * interval.nanos ≤
      10 * Instant.horizon) (a : Attempt) (now : Instant) :
    c.Ends method overall (c.tryOnce method overall work a now) ∨
      ∃ b start, c.GoesOn method overall (c.tryOnce method overall work a now)
        (c.tryOnce method overall work b start) := by
  let t := c.tryOnce method overall work a now
  cases hout : t.outcome with
  | ok x => exact Or.inl (.success x hout)
  | error status =>
    let f : Failure := ⟨status.code, method, a.number, overall⟩
    have hf : failure? method overall t.attempt.number t.outcome = some f :=
      failure?_of_error hout
    rcases Policy.decide_windowed_cases rule window interval rules draws t.ended f with
      hgive | ⟨hbefore, hdrawn⟩
    · exact Or.inl (.givenUp _ _ hs hf hgive)
    · rcases hspaced.drawn f with ⟨delay, hdelay, -, hshort, -⟩
      let start := c.clock.wake t.ended delay
      have hfits : start + window.nanos < Instant.horizon :=
        add_window_lt hbefore (c.clock.wake_lt t.ended delay) hshort hahead
      have hset : Policy.windowEnd window start overall =
          some (min (start + window.nanos) overall) := by
        rw [Policy.windowEnd, Instant.after?, if_pos hfits]
        rfl
      refine Or.inr ⟨⟨a.number + 1, min (start + window.nanos) overall⟩, start, rfl, _, f, delay,
        hs, hf, hdrawn.trans hdelay, rfl, ?_, hset⟩
      intro hclock
      show c.clock.wake t.ended delay = t.ended + delay.nanos
      rw [hclock, Clock.wake_exact]

end Caller

/-! ## Calls -/

/-- Calls with any rules about what may be retried, any draws, any work and any clock.  With counted
retries a call returns, and what it has made then are the attempts of a call that goes on at once
after each of them, up to the first one that settles it: that succeeds, or fails with a failure that
is not eligible, or has no retries left.  With constant intervals a call makes at most one attempt
more than there are nine tenths of an interval in the time until the overall deadline, rounded up.
If it might make more attempts than these, it is not cut off, and it returns unless what comes after
the deadline cannot be represented. -/
theorem retries_bounded (rule : Eligibility) (rules : Failure → Eligibility)
    (draws : Failure → Draw) (timeout : Duration) (clock : Clock) (method : String)
    (deadline : Option Instant) (work : Attempt → Work α) (now overall : Instant) :
    (∀ retries, retries + 1 < UInt32.size →
      let c : Caller :=
        { strategy := some ((Policy.counted rule retries).ruled rules draws), timeout, clock }
      let t := c.repeated method overall work ⟨1, overall⟩ now
      c.overallDeadline deadline now = some overall →
      ∃ n, IsLeast {i | Caller.Settles rules retries method overall (t i)} n ∧
        (∀ i ≤ n, (t i).attempt.number = i + 1 ∧ i + 1 < UInt32.size) ∧
        ∀ fuel, retries < fuel → c.call method deadline work now fuel =
          { tries := (List.range (n + 1)).map t
            ending := .returned (t n).outcome
            stopped := (t n).ended }) ∧
    ∀ window interval,
      let c : Caller :=
        { strategy := some ((Policy.windowed rule window interval).ruled rules draws)
          timeout, clock }
      let bound := 1 + (10 * Instant.nanosUntil now overall) ⌈/⌉ (9 * interval.nanos)
      c.overallDeadline deadline now = some overall → Caller.Spaced clock interval draws →
      ∀ fuel, (c.call method deadline work now fuel).tries.length ≤ bound ∧
        (bound < fuel → (c.call method deadline work now fuel).ending ≠ .unfinished ∧
          (10 * (overall + clock.step + window.nanos) + 11 * interval.nanos ≤
              10 * Instant.horizon →
            ∃ outcome, (c.call method deadline work now fuel).ending = .returned outcome)) := by
  constructor
  · intro retries hretries c t hoverall
    have hs : c.strategy = some ((Policy.counted rule retries).ruled rules draws) := rfl
    have hfirst : (⟨1, overall⟩ : Attempt).number + retries = retries + 1 := Nat.add_comm 1 retries
    rcases Caller.attempts_counted hs hfirst now with ⟨n, hleast, hn, hrun⟩
    refine ⟨n, hleast, ?_, ?_⟩
    · intro i hi
      exact ⟨(c.number_repeated _ now i).trans (Nat.add_comm 1 i), by omega⟩
    · intro fuel hfuel
      rw [Caller.call, hoverall]
      exact hrun fuel hfuel
  · intro window interval c bound hoverall hspaced fuel
    have hs : c.strategy = some ((Policy.windowed rule window interval).ruled rules draws) := rfl
    have hcall : c.call method deadline work now fuel =
        c.attempts method overall work fuel ⟨1, overall⟩ now := by
      rw [Caller.call, hoverall]
    have hlength : (c.attempts method overall work fuel ⟨1, overall⟩ now).tries.length ≤ bound :=
      Caller.length_attempts_le hs hspaced fuel ⟨1, overall⟩ now
    rw [hcall]
    refine ⟨hlength, ?_⟩
    intro hfuel
    -- a call that was cut off would have made too many attempts
    have hfinished : (c.attempts method overall work fuel ⟨1, overall⟩ now).ending ≠
        .unfinished := by
      intro hcut
      have hall := Caller.length_of_unfinished fuel _ now hcut
      omega
    refine ⟨hfinished, ?_⟩
    intro hahead
    rcases Caller.returned_or_unfinished (Caller.ends_or_goesOn hs hspaced hahead) fuel
        ⟨1, overall⟩ now with hreturned | hcut
    · exact hreturned
    · exact absurd hcut hfinished

/-- An interval of a fifth of a second, and the delays of nine tenths of it. -/
def fifthOfSecond : Duration := .ofMillis 200

theorem fifthOfSecond_spaced : Caller.Spaced .exact fifthOfSecond fun _ => .least :=
  ⟨by decide, fun _ => ⟨.ofMillis 180, rfl, by decide, by decide, by decide⟩⟩

/-- A caller that retries at such intervals. -/
def steadyCaller : Caller where
  strategy := some ((Policy.windowed .standard (.ofMillis 50) fifthOfSecond).ruled
    (fun _ => .standard) fun _ => .least)
  timeout := .ofMillis 1000

/-- A caller that retries three times. -/
def countingCaller : Caller where
  strategy := some ((Policy.counted .standard 3).ruled (fun _ => .standard) fun _ => .least)
  timeout := .ofMillis 1000

theorem retries_bounded_reached :
    let run := steadyCaller.call subscribePath (some 1000000000) (refusedUntil 9) 0 8
    let t := countingCaller.repeated subscribePath 1000000000 (refusedUntil 3) ⟨1, 1000000000⟩ 0
    1 + (10 * Instant.nanosUntil 0 1000000000) ⌈/⌉ (9 * fifthOfSecond.nanos) = 7 ∧
    run.tries.length = 7 ∧ (∃ outcome, run.ending = .returned outcome) ∧
    ∃ n, IsLeast {i | Caller.Settles (fun _ => .standard) 3 subscribePath 1000000000 (t i)} n ∧
      countingCaller.call subscribePath (some 1000000000) (refusedUntil 3) 0 4 =
        { tries := (List.range (n + 1)).map t
          ending := .returned (t n).outcome
          stopped := (t n).ended } := by
  have hreached : 1 + (10 * Instant.nanosUntil 0 1000000000) ⌈/⌉ (9 * fifthOfSecond.nanos) = 7 :=
    rfl
  refine ⟨hreached, by decide +kernel, ?_, ?_⟩
  · have hrun := (retries_bounded .standard (fun _ => .standard) (fun _ => .least)
      (.ofMillis 1000) .exact subscribePath (some 1000000000) (refusedUntil 9) 0 1000000000).2
      (.ofMillis 50) fifthOfSecond rfl fifthOfSecond_spaced 8
    have hfuel : 1 + (10 * Instant.nanosUntil 0 1000000000) ⌈/⌉ (9 * fifthOfSecond.nanos) < 8 := by
      rw [hreached]
      decide
    exact (hrun.2 hfuel).2 (by decide)
  · rcases (retries_bounded .standard (fun _ => .standard) (fun _ => .least) (.ofMillis 1000)
      .exact subscribePath (some 1000000000) (refusedUntil 3) 0 1000000000).1 3 (by decide) rfl with
      ⟨n, hleast, -, hrun⟩
    exact ⟨n, hleast, hrun 4 (by decide)⟩

end PubSub
