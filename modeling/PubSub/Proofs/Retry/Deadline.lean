import PubSub.Proofs.Retry.Course

/-!
# Overall deadlines

How far the overall deadline of a call bounds its attempts.

The loop never looks at the overall deadline.  It only cuts attempts short: an attempt that starts
before the deadline ends when its timer rings at the latest, and one that starts after it gets no
time at all.  Whether another attempt is made, and after which delay, is left to the strategy, and
the delay is slept through whatever time there is left.

* `Policy.ruled`: policies whose rule about what may be retried looks at all of a failure.
* `Caller.attempts_invariant`: what an attempt hands on to the next one holds of all attempts.
* `attempts_in_time`: attempts start late only after a delay that goes past the deadline, and then
  they end at once; at most one of them with constant intervals, and none without delays.
* `attempts_past_deadline`: growing delays do go past it, and attempts are made long after it.
-/

namespace PubSub

variable {α : Type}

/-! ## Policies with rules -/

namespace Policy

/-- The rule by which a policy tells what may be retried. -/
def eligibility : Policy → Eligibility
  | never => .standard
  | counted rule _ => rule
  | backoff rule _ => rule
  | windowed rule _ _ => rule

/-- The policy with another rule. -/
def under (rule : Eligibility) : Policy → Policy
  | never => never
  | counted _ retries => counted rule retries
  | backoff _ parameters => backoff rule parameters
  | windowed _ window interval => windowed rule window interval

/-- The strategy of a policy with a rule for every failure, so that what may be retried can depend
on all that is known about it. -/
def ruled (p : Policy) (rules : Failure → Eligibility) (draws : Failure → Draw) : Strategy where
  decide now f := (p.under (rules f)).decide (draws f) now f
  attemptDeadline := (p.strategy draws).attemptDeadline

/-- With its own rule for every failure this is the strategy of the policy. -/
theorem ruled_eligibility (p : Policy) (draws : Failure → Draw) :
    p.ruled (fun _ => p.eligibility) draws = p.strategy draws := by
  cases p <;> rfl

section Decide

variable {rule : Eligibility} {rules : Failure → Eligibility} {draws : Failure → Draw}
  {now : Instant} {f : Failure} {delay : Duration}

/-- Counted retries are for eligible failures while there are retries left, and at once. -/
theorem decide_counted {retries : Nat}
    (h : ((counted rule retries).ruled rules draws).decide now f = .retryAfter delay) :
    (rules f).accepts f.code f.method = true ∧ f.attempt ≤ retries ∧ delay = .zero := by
  simp only [ruled, under, Policy.decide] at h
  split at h
  · rename_i hmay
    cases h
    have hboth : (rules f).accepts f.code f.method = true ∧ f.attempt ≤ retries := by
      simpa using hmay
    exact ⟨hboth.1, hboth.2, rfl⟩
  · cases h

/-- Constant intervals are given up, or the overall deadline is ahead and a delay is drawn. -/
theorem decide_windowed_cases (rule : Eligibility) (window interval : Duration)
    (rules : Failure → Eligibility) (draws : Failure → Draw) (now : Instant) (f : Failure) :
    let s := (windowed rule window interval).ruled rules draws
    s.decide now f = .giveUp ∨
      (now < f.overall ∧ s.decide now f = delayAround interval (draws f)) := by
  simp only [ruled, under, Policy.decide]
  split
  · exact Or.inl rfl
  · rename_i hahead
    split
    · exact Or.inr ⟨Int.not_le.1 hahead, rfl⟩
    · exact Or.inl rfl

/-- Retries at constant intervals are decided on before the overall deadline. -/
theorem decide_windowed {window interval : Duration}
    (h : ((windowed rule window interval).ruled rules draws).decide now f = .retryAfter delay) :
    now < f.overall ∧ delayAround interval (draws f) = .retryAfter delay := by
  rcases decide_windowed_cases rule window interval rules draws now f with
    hgive | ⟨hahead, hdrawn⟩
  · cases hgive.symm.trans h
  · exact ⟨hahead, hdrawn.symm.trans h⟩

end Decide

/-- No policy sets a deadline for an attempt beyond that of the call. -/
theorem nextDeadline_le (p : Policy) (rules : Failure → Eligibility) (draws : Failure → Draw)
    {start overall deadline : Instant}
    (h : (p.ruled rules draws).nextDeadline start overall = some deadline) :
    deadline ≤ overall := by
  cases p with
  | windowed rule window interval =>
    have hset : windowEnd window start overall = some deadline := h
    rcases Option.map_eq_some_iff.1 hset with ⟨stop, -, rfl⟩
    exact Int.min_le_right _ _
  | _ =>
    cases h
    exact Int.le_refl _

end Policy

/-! ## Time passes -/

theorem Duration.nanos_of_isZero {d : Duration} (h : d.isZero = true) : d.nanos = 0 := by
  simpa [isZero] using h

theorem Duration.le_add (d : Duration) (now : Int) : now ≤ now + d.nanos :=
  Int.le_add_of_nonneg_right (Int.natCast_nonneg _)

namespace Clock

theorem ring_mono (c : Clock) {s t : Int} (h : s ≤ t) : c.ring s ≤ c.ring t := by
  have hstep : (0 : Int) < c.step := Int.natCast_pos.mpr c.step_pos
  have hquotient : -t / (c.step : Int) ≤ -s / c.step :=
    Int.ediv_le_ediv hstep (Int.neg_le_neg h)
  exact Int.mul_le_mul_of_nonneg_right (Int.neg_le_neg hquotient) (Int.le_of_lt hstep)

theorem wake_zero (c : Clock) (now : Int) : c.wake now .zero = now := rfl

end Clock

namespace Work

variable {w : Work α} {now ring : Int}

/-- The ways in which an attempt ends: its work takes no time, or it takes the time it needs, or the
timer cuts it short. -/
theorem endsAt_cases (w : Work α) (now ring : Int) :
    w.endsAt now ring = now ∨
    (∃ d, w.takes = some d ∧ now + d.nanos ≤ ring ∧ w.endsAt now ring = now + d.nanos) ∨
    w.endsAt now ring = max now ring := by
  unfold endsAt
  split
  · exact Or.inr (Or.inr rfl)
  · rename_i d htakes
    split
    · rename_i hfinishes
      have hby : d.isZero = true ∨ now + d.nanos ≤ ring := by
        simpa [finishesBy, htakes] using hfinishes
      rcases hby with hzero | hby
      · refine Or.inl ?_
        rw [Duration.nanos_of_isZero hzero]
        exact Int.add_zero _
      · exact Or.inr (Or.inl ⟨d, htakes, hby, rfl⟩)
    · exact Or.inr (Or.inr rfl)

theorem le_endsAt (w : Work α) (now ring : Int) : now ≤ w.endsAt now ring := by
  rcases w.endsAt_cases now ring with hat | ⟨d, -, -, hat⟩ | hat
  · exact Int.le_of_eq hat.symm
  · exact hat ▸ d.le_add now
  · exact hat ▸ Int.le_max_left _ _

/-- Neither work nor its timer goes on after a limit that they keep. -/
theorem endsAt_le {limit : Int} (hnow : now ≤ limit) (hring : ring ≤ limit) :
    w.endsAt now ring ≤ limit := by
  rcases w.endsAt_cases now ring with hat | ⟨d, -, hby, hat⟩ | hat
  · exact Int.le_trans (Int.le_of_eq hat) hnow
  · exact hat ▸ Int.le_trans hby hring
  · exact hat ▸ Int.max_le.2 ⟨hnow, hring⟩

/-- An attempt that starts after its timer has rung ends at once. -/
theorem endsAt_of_late (h : ring < now) : w.endsAt now ring = now := by
  rcases w.endsAt_cases now ring with hat | ⟨d, -, hby, hat⟩ | hat
  · exact hat
  · exact absurd (Int.le_trans (d.le_add now) hby) (Int.not_le.2 h)
  · exact hat.trans (Int.max_eq_left (Int.le_of_lt h))

end Work

/-! ## Runs of attempts -/

namespace Caller

variable {c : Caller} {method : String} {overall : Instant} {work : Attempt → Work α}

/-- What holds of the first attempt, and is handed on from every attempt to the next one, holds of
all attempts. -/
theorem attempts_invariant {P : Attempt → Instant → Prop}
    (hnext : ∀ a now b start, P a now →
      c.GoesOn method overall (c.tryOnce method overall work a now)
        (c.tryOnce method overall work b start) → P b start)
    (fuel : Nat) {a : Attempt} {now : Instant} (h : P a now) :
    ∀ t ∈ (c.attempts method overall work fuel a now).tries,
      ∃ b start, P b start ∧ t = c.tryOnce method overall work b start := by
  induction fuel generalizing a now with
  | zero =>
    intro t ht
    cases ht
  | succ fuel ih =>
    rcases c.tries_succ method overall work fuel a now with hlast | ⟨b, start, hgo, hmore⟩
    · intro t ht
      rw [hlast] at ht
      exact ⟨a, now, h, List.mem_singleton.1 ht⟩
    · intro t ht
      rw [hmore] at ht
      rcases List.mem_cons.1 ht with rfl | hrest
      · exact ⟨a, now, h, rfl⟩
      · exact ih (hnext a now b start h hgo) t hrest

/-- After every attempt but the last one another attempt goes on from it. -/
theorem attempts_dropLast (fuel : Nat) (a : Attempt) (now : Instant) :
    ∀ t ∈ (c.attempts method overall work fuel a now).tries.dropLast,
      ∃ u, c.GoesOn method overall t u := by
  induction fuel generalizing a now with
  | zero =>
    intro t ht
    cases ht
  | succ fuel ih =>
    rcases c.tries_succ method overall work fuel a now with hlast | ⟨b, start, hgo, hmore⟩
    · intro t ht
      rw [hlast] at ht
      cases ht
    · intro t ht
      have hrest := ih b start
      rw [hmore] at ht
      -- without further attempts this one is the last
      cases hothers : (c.attempts method overall work fuel b start).tries with
      | nil =>
        rw [hothers] at ht
        cases ht
      | cons u others =>
        rw [hothers, List.dropLast_cons_cons] at ht
        rcases List.mem_cons.1 ht with rfl | hlater
        · exact ⟨_, hgo⟩
        · exact hrest t (hothers ▸ hlater)

/-- A strategy was asked about an attempt after which another one goes on, and answered the delay
until that starts. -/
theorem GoesOn.asked {strategy : Strategy} {a b : Attempt} {now start : Instant}
    (hs : c.strategy = some strategy)
    (h : c.GoesOn method overall (c.tryOnce method overall work a now)
      (c.tryOnce method overall work b start)) :
    let t := c.tryOnce method overall work a now
    ∃ failure delay, t.asked = some (failure, .retryAfter delay) ∧
      strategy.decide t.ended failure = .retryAfter delay ∧ failure.overall = overall ∧
      start = c.clock.wake t.ended delay ∧
      strategy.nextDeadline start overall = some b.deadline := by
  intro t
  rcases h.answered with ⟨strategy', failure, delay, hs', hf, hv, hstart, -, hdeadline⟩
  obtain rfl : strategy = strategy' := by
    rw [hs] at hs'
    exact Option.some.inj hs'
  have hasked : t.asked = some (failure, strategy.decide t.ended failure) := by
    show c.consult method overall t.ended a.number t.outcome = _
    have hshown : failure? method overall a.number t.outcome = some failure := hf
    simp only [consult, hs, hshown]
  rcases of_failure? hf with ⟨status, -, rfl⟩
  exact ⟨_, delay, hv ▸ hasked, hv, rfl, hstart, hdeadline⟩

/-! ### Attempts and the overall deadline -/

/-- The strategy answered a delay that goes past the overall deadline. -/
def Overruns (c : Caller) (overall : Instant) (t : Try α) : Prop :=
  ∃ failure delay, t.asked = some (failure, .retryAfter delay) ∧
    c.clock.ring overall < c.clock.wake t.ended delay

section Late

variable {strategy : Strategy} (hs : c.strategy = some strategy)
  (hcap : ∀ start deadline, strategy.nextDeadline start overall = some deadline →
    deadline ≤ overall)

include hs hcap

/-- No attempt has a deadline beyond that of the call. -/
theorem deadline_le (fuel : Nat) {a : Attempt} {now : Instant} (ha : a.deadline ≤ overall) :
    ∀ t ∈ (c.attempts method overall work fuel a now).tries, ∃ b start, b.deadline ≤ overall ∧
      t = c.tryOnce method overall work b start := by
  apply attempts_invariant (P := fun a _ => a.deadline ≤ overall) _ fuel ha
  intro a now b start _ hgo
  rcases hgo.asked hs with ⟨_, _, -, -, -, -, hdeadline⟩
  exact hcap start b.deadline hdeadline

/-- Without delays no attempt starts late. -/
theorem started_le (hprompt : ∀ now f delay, strategy.decide now f = .retryAfter delay →
      delay = .zero)
    (fuel : Nat) {a : Attempt} {now : Instant} (ha : a.deadline ≤ overall)
    (hnow : now ≤ c.clock.ring overall) :
    ∀ t ∈ (c.attempts method overall work fuel a now).tries,
      t.started ≤ c.clock.ring overall := by
  have hmade : ∀ t ∈ (c.attempts method overall work fuel a now).tries,
      ∃ b start, (b.deadline ≤ overall ∧ start ≤ c.clock.ring overall) ∧
        t = c.tryOnce method overall work b start := by
    apply attempts_invariant (P := fun a now => a.deadline ≤ overall ∧ now ≤ c.clock.ring overall)
      _ fuel ⟨ha, hnow⟩
    rintro a now b start ⟨ha, hnow⟩ hgo
    rcases hgo.asked hs with ⟨failure, delay, -, hv, -, hstart, hdeadline⟩
    -- the next attempt starts when this one ends
    rw [hprompt _ _ _ hv, Clock.wake_zero] at hstart
    exact ⟨hcap start b.deadline hdeadline, hstart ▸ Work.endsAt_le hnow (c.clock.ring_mono ha)⟩
  intro t ht
  rcases hmade t ht with ⟨b, start, ⟨-, hin⟩, rfl⟩
  exact hin

/-- If an attempt starts late, a delay before it went past the deadline; it was answered in time. -/
theorem exists_overruns (fuel : Nat) {a : Attempt} {now : Instant} (ha : a.deadline ≤ overall)
    (hnow : now ≤ c.clock.ring overall) :
    let tries := (c.attempts method overall work fuel a now).tries
    ∀ t ∈ tries, c.clock.ring overall < t.started →
      ∃ u ∈ tries, u.ended ≤ c.clock.ring overall ∧ c.Overruns overall u := by
  intro tries t ht hlate
  -- the attempt at hand is in time; either the next one is late, or the search goes on from there
  have hfirst : ¬ c.clock.ring overall < now := Int.not_lt.2 hnow
  simp only [tries] at ht ⊢
  clear tries
  induction fuel generalizing a now with
  | zero => cases ht
  | succ fuel ih =>
    rcases c.tries_succ method overall work fuel a now with hlast | ⟨b, start, hgo, hmore⟩
    · rw [hlast] at ht
      rw [List.mem_singleton.1 ht] at hlate
      exact absurd hlate hfirst
    · rcases hgo.asked hs with ⟨failure, delay, hasked, -, -, hstart, hdeadline⟩
      rw [hmore] at ht ⊢
      by_cases hnext : start ≤ c.clock.ring overall
      · have hrest : t ∈ (c.attempts method overall work fuel b start).tries := by
          rcases List.mem_cons.1 ht with rfl | hrest
          · exact absurd hlate hfirst
          · exact hrest
        rcases ih (hcap _ _ hdeadline) hnext hrest (Int.not_lt.2 hnext) with ⟨u, hu, hover⟩
        exact ⟨u, List.mem_cons_of_mem _ hu, hover⟩
      · refine ⟨_, List.mem_cons_self, ?_, failure, delay, hasked, ?_⟩
        · exact Work.endsAt_le hnow (c.clock.ring_mono ha)
        · exact hstart ▸ Int.not_le.1 hnext

end Late

end Caller

/-! ## Calls in time -/

/-- A call under one of the policies, with any rules about what may be retried, any draws, any work
and any clock, which starts before its overall deadline.  No attempt has a deadline beyond the
overall one; an attempt that starts before the timer for that rings ends when it rings at the
latest; and one that starts after it ends at once, and comes after a delay that the strategy had
answered in time and that goes past the deadline.  Only one attempt is made so late with
constant intervals, and none without delays.  Growing delays are not measured against the deadline,
so that with them every attempt may come late but the first one. -/
theorem attempts_in_time (p : Policy) (rules : Failure → Eligibility) (draws : Failure → Draw)
    (timeout : Duration) (clock : Clock) (method : String) (deadline : Option Instant)
    (work : Attempt → Work α) {now overall : Instant} (fuel : Nat) :
    let c : Caller := { strategy := some (p.ruled rules draws), timeout, clock }
    let tries := (c.call method deadline work now fuel).tries
    let limit := clock.ring overall
    c.overallDeadline deadline now = some overall → now < overall →
    (∀ t ∈ tries, t.attempt.deadline ≤ overall) ∧
    (∀ t ∈ tries, t.started ≤ limit → t.ended ≤ limit) ∧
    (∀ t ∈ tries, limit < t.started → t.ended = t.started ∧
      ∃ u ∈ tries, u.ended ≤ limit ∧ c.Overruns overall u) ∧
    (∀ rule window interval, p = .windowed rule window interval →
      ∀ t ∈ tries.dropLast, t.ended < overall) ∧
    (p = .never ∨ (∃ rule retries, p = .counted rule retries) →
      ∀ t ∈ tries, t.started ≤ limit) := by
  intro c tries limit hoverall hnow
  have hs : c.strategy = some (p.ruled rules draws) := rfl
  have hcap : ∀ start deadline, (p.ruled rules draws).nextDeadline start overall = some deadline →
      deadline ≤ overall := fun _ _ => p.nextDeadline_le rules draws
  have hcall : tries = (c.attempts method overall work fuel ⟨1, overall⟩ now).tries := by
    simp only [tries, Caller.call, hoverall]
  have hstart : now ≤ limit := Int.le_trans (Int.le_of_lt hnow) (clock.le_ring overall)
  have hfirst : (⟨1, overall⟩ : Attempt).deadline ≤ overall := Int.le_refl overall
  have hmade : ∀ t ∈ tries, ∃ b start, b.deadline ≤ overall ∧
      t = c.tryOnce method overall work b start := hcall ▸ Caller.deadline_le hs hcap fuel hfirst
  rw [hcall] at hmade ⊢
  refine ⟨?_, ?_, ?_, ?_, ?_⟩
  · intro t ht
    rcases hmade t ht with ⟨b, start, hb, rfl⟩
    exact hb
  · intro t ht hin
    rcases hmade t ht with ⟨b, start, hb, rfl⟩
    exact Work.endsAt_le hin (clock.ring_mono hb)
  · intro t ht hlate
    refine ⟨?_, Caller.exists_overruns hs hcap fuel hfirst hstart t ht hlate⟩
    rcases hmade t ht with ⟨b, start, hb, rfl⟩
    exact Work.endsAt_of_late (Int.lt_of_le_of_lt (clock.ring_mono hb) hlate)
  · rintro rule window interval rfl t ht
    rcases Caller.attempts_dropLast fuel _ now t ht with ⟨u, hgo⟩
    rcases hgo.answered with ⟨strategy, failure, delay, hs', hf, hv, -⟩
    rw [← Option.some.inj hs'] at hv
    rcases Caller.of_failure? hf with ⟨status, -, rfl⟩
    exact (Policy.decide_windowed hv).1
  · intro hp
    refine Caller.started_le hs hcap ?_ fuel hfirst hstart
    intro now f delay hv
    rcases hp with rfl | ⟨rule, retries, rfl⟩
    · cases hv
    · exact (Policy.decide_counted hv).2.2

/-- Work that is refused at once, again and again, until a given attempt. -/
def refusedUntil (number : Nat) (a : Attempt) : Work Nat where
  takes := some .zero
  result :=
    if a.number < number then .error { code := .unavailable, message := "down" } else .ok a.number

theorem attempts_in_time_interval :
    let policy := Policy.windowed .standard (.ofMillis 200) (.ofMillis 2000)
    let c : Caller :=
      { strategy := some (policy.ruled (fun _ => .standard) fun _ => .least)
        timeout := .ofMillis 5000, clock := .coarse }
    let tries := (c.call subscribePath (some 1000000000) (refusedUntil 3) 0 4).tries
    tries.map (·.started) = [0, 1800000000] ∧ ∀ t ∈ tries.dropLast, t.ended < 1000000000 :=
  ⟨rfl, (attempts_in_time (.windowed .standard (.ofMillis 200) (.ofMillis 2000))
    (fun _ => .standard) (fun _ => .least) (.ofMillis 5000) .coarse subscribePath (some 1000000000)
    (refusedUntil 3) 4 rfl (by decide)).2.2.2.1 _ _ _ rfl⟩

/-- A caller whose delays are two seconds long from the first one on. -/
def slowCaller : Caller where
  strategy := some ((Policy.backoff .standard
    { initial := .ofMillis 2000, growth := 3, cap := .ofMillis 2000 }).strategy fun _ => .least)
  timeout := .ofMillis 5000

/-- A call that has one second makes attempts after two seconds and after four, and succeeds. -/
theorem attempts_past_deadline :
    let run := slowCaller.call subscribePath (some 1000000000) (refusedUntil 3) 0 3
    slowCaller.overallDeadline (some 1000000000) 0 = some 1000000000 ∧
    run.tries.map (·.started) = [0, 2000000000, 4000000000] ∧ run.ending = .returned (.ok 3) ∧
    ¬ ∀ t ∈ run.tries, t.started ≤ 1000000000 := by
  refine ⟨rfl, rfl, rfl, ?_⟩
  intro hall
  have hlate := hall (slowCaller.tryOnce subscribePath 1000000000 (refusedUntil 3)
    ⟨2, 1000000000⟩ 2000000000) (List.mem_cons_of_mem _ List.mem_cons_self)
  exact absurd hlate (by decide)

end PubSub
