import Mathlib.Data.List.Chain
import PubSub.Retry.Policy
import PubSub.Retry.Call

/-!
# The course of a call

What the record of a call that returned looks like as a whole: how its attempts are numbered, when
each of them starts and by when it has to finish, what the strategy is asked, which attempt is the
last one, and whose outcome is returned.

* `Work.cut_off`: what comes of an attempt that outlives its deadline.
* `CallCourse`: the properties of such a record.  They are stated about the attempts themselves,
  through the work that each of them does and the answers of the strategy, and not through the loop
  that makes them.
* `Caller.attempts_of_ends`, `Caller.attempts_of_goesOn`: the loop as equations.
* `Caller.attempts_succ`, `Caller.tries_succ`: what one attempt leads to.
* `call_course`: every call that returns has them, for any strategy, work, clock and deadlines.
-/

namespace PubSub

variable {α : Type}

/-! ## Single attempts -/

namespace Work

/-- An attempt can only succeed with what its work yields. -/
theorem result_of_outcome_ok {w : Work α} {now ring : Instant} {x : α}
    (h : w.outcome now ring = .ok x) : w.result = .ok x := by
  unfold outcome at h
  split at h
  · exact h
  · cases h

/-- Work is too late for a timer if it takes some time and ends after the timer rings, or never. -/
theorem finishesBy_eq_false_iff {w : Work α} {now ring : Instant} :
    w.finishesBy now ring = false ↔
      ∀ d, w.takes = some d → 0 < d.nanos ∧ ring < now + d.nanos := by
  cases htakes : w.takes with
  | none => simp [finishesBy, htakes]
  | some d => simp [finishesBy, htakes, Duration.isZero, Nat.pos_iff_ne_zero]

/-- An attempt whose work is too late ends when the timer rings, with the failure for that. -/
theorem cut_off {w : Work α} {now ring : Instant} (h : w.finishesBy now ring = false) :
    w.outcome now ring = .error outOfTime ∧ w.endsAt now ring = max now ring := by
  refine ⟨by simp [outcome, h], ?_⟩
  unfold endsAt
  split
  · rfl
  · simp [h]

end Work

namespace Caller

/-- What a failed attempt shows to the strategy; a success shows nothing. -/
def failure? (method : String) (overall : Instant) (number : Nat) :
    Except Status α → Option Failure
  | .ok _ => none
  | .error status => some ⟨status.code, method, number, overall⟩

/-- What the strategy, if there is one, is asked about an attempt that ended, and its answer. -/
def consult (c : Caller) (method : String) (overall ended : Instant) (number : Nat)
    (outcome : Except Status α) : Option (Failure × Verdict) :=
  match c.strategy, failure? method overall number outcome with
  | some strategy, some failure => some (failure, strategy.decide ended failure)
  | _, _ => none

/-- The record of an attempt that starts at `now`. -/
def tryOnce (c : Caller) (method : String) (overall : Instant) (work : Attempt → Work α)
    (a : Attempt) (now : Instant) : Try α where
  attempt := a
  started := now
  ended := (work a).endsAt now (c.clock.ring a.deadline)
  outcome := (work a).outcome now (c.clock.ring a.deadline)
  asked := c.consult method overall ((work a).endsAt now (c.clock.ring a.deadline)) a.number
    ((work a).outcome now (c.clock.ring a.deadline))

/-- A call ends with an attempt if that succeeded, if there is no strategy to ask about its
failure, or if the strategy gave up. -/
inductive Ends (c : Caller) (method : String) (overall : Instant) (t : Try α) : Prop where
  | success (x : α) (h : t.outcome = .ok x)
  | noStrategy (h : c.strategy = none)
  | givenUp (strategy : Strategy) (failure : Failure) (hs : c.strategy = some strategy)
      (hf : failure? method overall t.attempt.number t.outcome = some failure)
      (h : strategy.decide t.ended failure = .giveUp)

/-- One attempt goes on from another that failed: the strategy answered a delay, the attempt starts
when a sleep of that length is over, it has the next number, and its deadline is set at its
start, by the strategy if that sets deadlines, and to the overall deadline otherwise. -/
structure GoesOn (c : Caller) (method : String) (overall : Instant) (t u : Try α) : Prop where
  number : u.attempt.number = t.attempt.number + 1
  answered : ∃ strategy failure delay, c.strategy = some strategy ∧
    failure? method overall t.attempt.number t.outcome = some failure ∧
    strategy.decide t.ended failure = .retryAfter delay ∧
    u.started = c.clock.wake t.ended delay ∧
    (c.clock = .exact → u.started = t.ended + delay.nanos) ∧
    strategy.nextDeadline u.started overall = some u.attempt.deadline

end Caller

/-- The record of a call that returned: `first` is its first attempt, which starts at `start`. -/
structure CallCourse (c : Caller) (method : String) (overall : Instant) (work : Attempt → Work α)
    (first : Attempt) (start : Instant) (tries : List (Try α)) (result : Except Status α) :
    Prop where
  /-- The attempts are numbered without a gap. -/
  numbered : tries.map (·.attempt.number) = List.range' first.number tries.length
  begins : ∃ t, tries.head? = some t ∧ t.attempt = first ∧ t.started = start
  /-- Every attempt does its work until that ends or the timer for its deadline rings. -/
  worked : ∀ t ∈ tries,
    t.outcome = (work t.attempt).outcome t.started (c.clock.ring t.attempt.deadline) ∧
    t.ended = (work t.attempt).endsAt t.started (c.clock.ring t.attempt.deadline)
  /-- An attempt that outlives its deadline fails with that when the timer rings, whatever its work
  would have come to. -/
  late : ∀ t ∈ tries,
    (∀ d, (work t.attempt).takes = some d →
      0 < d.nanos ∧ c.clock.ring t.attempt.deadline < t.started + d.nanos) →
    t.outcome = .error outOfTime ∧ t.ended = max t.started (c.clock.ring t.attempt.deadline)
  /-- The strategy is asked about every failed attempt once, and about nothing else. -/
  asked : ∀ t ∈ tries,
    t.asked = c.consult method overall t.ended t.attempt.number t.outcome
  goesOn : tries.IsChain (c.GoesOn method overall)
  /-- The last attempt is the first one that ends the call, and its outcome is returned. -/
  ends : ∃ t, tries.getLast? = some t ∧ c.Ends method overall t ∧ t.outcome = result
  notEarlier : ∀ t ∈ tries.dropLast, ¬ c.Ends method overall t

namespace Clock

/-- On the exact clock a sleep lasts as long as was asked for. -/
theorem wake_exact (now : Int) (d : Duration) : exact.wake now d = now + d.nanos := by
  have hwait : (exact.wait d).nanos = d.nanos := by
    have hrange := d.inRange
    simp only [wait, Duration.nanos_shorter, exact, Duration.longest]
    omega
  unfold wake
  split
  · rename_i hzero
    have hnone : d.nanos = 0 := by simpa [Duration.isZero] using hzero
    simp [hnone]
  · rw [sleep, ring_exact, hwait]

end Clock

/-! ## The loop -/

namespace Caller

variable (c : Caller) (method : String) (overall : Instant) (work : Attempt → Work α)

theorem attempt_tryOnce (a : Attempt) (now : Instant) :
    (c.tryOnce method overall work a now).attempt = a := rfl

/-- An attempt whose work outlives the deadline. -/
theorem late_tryOnce (a : Attempt) (now : Instant)
    (h : ∀ d, (work a).takes = some d →
      0 < d.nanos ∧ c.clock.ring a.deadline < now + d.nanos) :
    (c.tryOnce method overall work a now).outcome = .error outOfTime ∧
      (c.tryOnce method overall work a now).ended = max now (c.clock.ring a.deadline) :=
  Work.cut_off (Work.finishesBy_eq_false_iff.2 h)

section Equations

variable {c : Caller} {method : String} {overall : Instant} {work : Attempt → Work α}

theorem failure?_of_error {number : Nat} {outcome : Except Status α} {status : Status}
    (h : outcome = .error status) :
    failure? method overall number outcome = some ⟨status.code, method, number, overall⟩ := by
  rw [h]
  rfl

/-- A failure is shown with the number of its attempt and the deadline of the call. -/
theorem of_failure? {number : Nat} {outcome : Except Status α} {f : Failure}
    (h : failure? method overall number outcome = some f) :
    ∃ status, outcome = .error status ∧ f = ⟨status.code, method, number, overall⟩ := by
  cases outcome with
  | ok x => cases h
  | error status => exact ⟨status, rfl, (Option.some.inj h).symm⟩

/-- An attempt that ends the call is its last one, and its outcome is returned. -/
theorem attempts_of_ends {a : Attempt} {now : Instant}
    (h : c.Ends method overall (c.tryOnce method overall work a now)) (fuel : Nat) :
    c.attempts method overall work (fuel + 1) a now =
      last (c.tryOnce method overall work a now)
        (.returned (c.tryOnce method overall work a now).outcome) := by
  cases h with
  | success x hout =>
    have hdone : (work a).outcome now (c.clock.ring a.deadline) = .ok x := hout
    cases hs : c.strategy <;> simp [attempts, tryOnce, hdone, consult, failure?, hs]
  | noStrategy hs =>
    cases hout : (work a).outcome now (c.clock.ring a.deadline) <;>
      simp [attempts, tryOnce, hout, consult, hs]
  | givenUp strategy failure hs hf hv =>
    rcases of_failure? hf with ⟨status, hout, rfl⟩
    simp only [tryOnce] at hout hv
    simp [attempts, tryOnce, hout, consult, failure?, hs, hv]

/-- An attempt from which another one goes on is followed by the attempts from that one on. -/
theorem attempts_of_goesOn {a b : Attempt} {now start : Instant}
    (h : c.GoesOn method overall (c.tryOnce method overall work a now)
      (c.tryOnce method overall work b start)) (fuel : Nat) :
    c.attempts method overall work (fuel + 1) a now =
      cons (c.tryOnce method overall work a now) (c.attempts method overall work fuel b start) := by
  rcases h.answered with ⟨strategy, failure, delay, hs, hf, hv, hstart, -, hdeadline⟩
  rcases of_failure? hf with ⟨status, hout, rfl⟩
  have hb : b = ⟨a.number + 1, b.deadline⟩ := by
    rw [← show b.number = a.number + 1 from h.number]
  simp only [tryOnce] at hout hv hstart hdeadline
  rw [hb]
  simp [attempts, tryOnce, hout, consult, failure?, hs, hv, ← hstart, hdeadline]

/-- An attempt after which the strategy asks for another one does not end the call. -/
theorem GoesOn.not_ends {t u : Try α} (h : c.GoesOn method overall t u) :
    ¬ c.Ends method overall t := by
  rcases h.answered with ⟨strategy, failure, delay, hs, hf, hv, -⟩
  rintro (⟨x, hout⟩ | hnone | ⟨strategy', failure', hs', hf', hgive⟩)
  · rw [hout] at hf
    cases hf
  · cases hs.symm.trans hnone
  · obtain rfl := Option.some.inj (hs.symm.trans hs')
    obtain rfl := Option.some.inj (hf.symm.trans hf')
    cases hv.symm.trans hgive

end Equations

/-- What an attempt leads to, whatever the bound on further ones: the call ends with it, or an
instant or a delay cannot be represented, or another attempt goes on from it. -/
theorem attempts_succ (a : Attempt) (now : Instant) :
    let t := c.tryOnce method overall work a now
    (c.Ends method overall t ∧ ∀ fuel,
      c.attempts method overall work (fuel + 1) a now = last t (.returned t.outcome)) ∨
    (∀ fuel, c.attempts method overall work (fuel + 1) a now = last t .overflow) ∨
    ∃ b start, ¬ c.Ends method overall t ∧
      c.GoesOn method overall t (c.tryOnce method overall work b start) ∧
      ∀ fuel, c.attempts method overall work (fuel + 1) a now =
        cons t (c.attempts method overall work fuel b start) := by
  intro t
  cases hout : t.outcome with
  | ok x => exact Or.inl ⟨.success x hout, hout ▸ attempts_of_ends (.success x hout)⟩
  | error status =>
    cases hs : c.strategy with
    | none => exact Or.inl ⟨.noStrategy hs, hout ▸ attempts_of_ends (.noStrategy hs)⟩
    | some strategy =>
      -- what comes next is up to the answer of the strategy
      have hfail : failure? method overall t.attempt.number t.outcome =
          some ⟨status.code, method, a.number, overall⟩ := failure?_of_error hout
      have hfailed : (work a).outcome now (c.clock.ring a.deadline) = .error status := hout
      cases hv : strategy.decide t.ended ⟨status.code, method, a.number, overall⟩ with
      | giveUp =>
        have hend : c.Ends method overall t := .givenUp strategy _ hs hfail hv
        exact Or.inl ⟨hend, hout ▸ attempts_of_ends hend⟩
      | overflow =>
        refine Or.inr (Or.inl fun fuel => ?_)
        simp only [t, tryOnce] at hv
        simp [attempts, t, tryOnce, hfailed, consult, failure?, hs, hv]
      | retryAfter delay =>
        cases hd : strategy.nextDeadline (c.clock.wake t.ended delay) overall with
        | none =>
          refine Or.inr (Or.inl fun fuel => ?_)
          simp only [t, tryOnce] at hv hd
          simp [attempts, t, tryOnce, hfailed, consult, failure?, hs, hv, hd]
        | some deadline =>
          have hexact : c.clock = .exact → c.clock.wake t.ended delay = t.ended + delay.nanos := by
            intro hclock
            rw [hclock, Clock.wake_exact]
          have hgo : c.GoesOn method overall t (c.tryOnce method overall work
              ⟨a.number + 1, deadline⟩ (c.clock.wake t.ended delay)) :=
            ⟨rfl, strategy, _, delay, hs, hfail, hv, rfl, hexact, hd⟩
          exact Or.inr (Or.inr ⟨_, _, hgo.not_ends, hgo, attempts_of_goesOn hgo⟩)

/-- The attempts of a call are a last one, or one and those from another on that goes on from it. -/
theorem tries_succ (fuel : Nat) (a : Attempt) (now : Instant) :
    let t := c.tryOnce method overall work a now
    (c.attempts method overall work (fuel + 1) a now).tries = [t] ∨
      ∃ b start, c.GoesOn method overall t (c.tryOnce method overall work b start) ∧
        (c.attempts method overall work (fuel + 1) a now).tries =
          t :: (c.attempts method overall work fuel b start).tries := by
  intro t
  rcases c.attempts_succ method overall work a now with
    ⟨_, hrun⟩ | hrun | ⟨b, start, _, hgo, hrun⟩
  · exact Or.inl (congrArg Run.tries (hrun fuel))
  · exact Or.inl (congrArg Run.tries (hrun fuel))
  · exact Or.inr ⟨b, start, hgo, congrArg Run.tries (hrun fuel)⟩

end Caller

namespace CallCourse

variable {c : Caller} {method : String} {overall : Instant} {work : Attempt → Work α}

/-- The course of a call that ends with its first attempt. -/
theorem single (a : Attempt) (now : Instant)
    (h : c.Ends method overall (c.tryOnce method overall work a now)) :
    CallCourse c method overall work a now [c.tryOnce method overall work a now]
      (c.tryOnce method overall work a now).outcome where
  numbered := rfl
  begins := ⟨_, rfl, rfl, rfl⟩
  worked := by
    intro t ht
    rw [List.mem_singleton.1 ht]
    exact ⟨rfl, rfl⟩
  late := by
    intro t ht
    rw [List.mem_singleton.1 ht]
    exact c.late_tryOnce method overall work a now
  asked := by
    intro t ht
    rw [List.mem_singleton.1 ht]
    rfl
  goesOn := List.isChain_singleton _
  ends := ⟨_, rfl, h, rfl⟩
  notEarlier := by simp

/-- One more attempt in front of the course of the rest. -/
theorem cons {a b : Attempt} {now start : Instant} {tries : List (Try α)}
    {result : Except Status α}
    (hgo : c.GoesOn method overall (c.tryOnce method overall work a now)
      (c.tryOnce method overall work b start))
    (hend : ¬ c.Ends method overall (c.tryOnce method overall work a now))
    (rest : CallCourse c method overall work b start tries result)
    (hhead : tries.head? = some (c.tryOnce method overall work b start)) :
    CallCourse c method overall work a now (c.tryOnce method overall work a now :: tries)
      result := by
  obtain ⟨more, rfl⟩ : ∃ more, tries = c.tryOnce method overall work b start :: more := by
    cases tries with
    | nil => cases hhead
    | cons t more => exact ⟨more, by simpa using hhead⟩
  have hnumber : b.number = a.number + 1 := hgo.number
  refine ⟨?_, ⟨_, rfl, rfl, rfl⟩, ?_, ?_, ?_, ?_, ?_, ?_⟩
  · have hnumbered := rest.numbered
    rw [hnumber] at hnumbered
    simpa [List.range'_succ, Caller.attempt_tryOnce] using hnumbered
  · intro t ht
    rcases List.mem_cons.1 ht with rfl | ht
    · exact ⟨rfl, rfl⟩
    · exact rest.worked t ht
  · intro t ht
    rcases List.mem_cons.1 ht with rfl | ht
    · exact c.late_tryOnce method overall work a now
    · exact rest.late t ht
  · intro t ht
    rcases List.mem_cons.1 ht with rfl | ht
    · rfl
    · exact rest.asked t ht
  · exact List.isChain_cons_cons.2 ⟨hgo, rest.goesOn⟩
  · simpa using rest.ends
  · intro t ht
    rcases List.mem_cons.1 (by simpa using ht) with rfl | ht
    · exact hend
    · exact rest.notEarlier t ht

end CallCourse

namespace Caller

variable (c : Caller) (method : String) (overall : Instant) (work : Attempt → Work α)

/-- The attempts of a call that returns begin with the given one. -/
theorem head?_attempts (fuel : Nat) (a : Attempt) (now : Instant) {result : Except Status α}
    (h : (c.attempts method overall work fuel a now).ending = .returned result) :
    (c.attempts method overall work fuel a now).tries.head? =
      some (c.tryOnce method overall work a now) := by
  cases fuel with
  | zero => cases h
  | succ fuel =>
    rcases c.tries_succ method overall work fuel a now with hlast | ⟨b, start, _, hmore⟩
    · exact congrArg List.head? hlast
    · exact congrArg List.head? hmore

/-- The loop, from any attempt on, takes the course of a call. -/
theorem attempts_course (fuel : Nat) (a : Attempt) (now : Instant) {result : Except Status α}
    (h : (c.attempts method overall work fuel a now).ending = .returned result) :
    CallCourse c method overall work a now (c.attempts method overall work fuel a now).tries
      result := by
  -- the bound on the number of attempts goes down by one with each of them
  induction fuel generalizing a now with
  | zero => cases h
  | succ fuel ih =>
    rcases c.attempts_succ method overall work a now with
      ⟨hend, hrun⟩ | hrun | ⟨b, start, hend, hgo, hrun⟩
    · rw [hrun] at h ⊢
      cases h
      exact .single a now hend
    · rw [hrun] at h
      cases h
    · rw [hrun] at h ⊢
      exact .cons hgo hend (ih b start h) (c.head?_attempts method overall work fuel b start h)

/-- Attempts that were not cut off leave the same record however many more there might have been. -/
theorem attempts_of_le {fuel more : Nat} (hle : fuel ≤ more) (a : Attempt) (now : Instant)
    (h : (c.attempts method overall work fuel a now).ending ≠ .unfinished) :
    c.attempts method overall work more a now = c.attempts method overall work fuel a now := by
  induction fuel generalizing more a now with
  | zero => exact absurd rfl h
  | succ fuel ih =>
    cases more with
    | zero => cases hle
    | succ more =>
      rcases c.attempts_succ method overall work a now with
        ⟨_, hrun⟩ | hrun | ⟨b, start, _, _, hrun⟩
      · rw [hrun, hrun]
      · rw [hrun, hrun]
      · rw [hrun] at h
        rw [hrun, hrun, ih (Nat.le_of_succ_le_succ hle) b start h]

/-- A call that returned leaves the same record however many more attempts it might have made. -/
theorem attempts_add (fuel more : Nat) (a : Attempt) (now : Instant) {result : Except Status α}
    (h : (c.attempts method overall work fuel a now).ending = .returned result) :
    c.attempts method overall work (fuel + more) a now =
      c.attempts method overall work fuel a now := by
  refine c.attempts_of_le method overall work (Nat.le_add_right fuel more) a now ?_
  rw [h]
  exact nofun

/-- A call that succeeds does so with what the work of one of its attempts yields. -/
theorem result_of_call_ok {method : String} {work : Attempt → Work α} {deadline : Option Instant}
    {now : Instant} {fuel : Nat} {x : α}
    (h : (c.call method deadline work now fuel).ending = .returned (.ok x)) :
    ∃ a, (work a).result = .ok x := by
  unfold call at h
  split at h
  · cases h
  · -- the outcome that is returned is that of the last attempt
    have course := c.attempts_course method _ work fuel _ now h
    rcases course.ends with ⟨t, hlast, _, hout⟩
    have hmem : t ∈ _ := List.mem_of_getLast? hlast
    have hwork := (course.worked t hmem).1
    exact ⟨t.attempt, Work.result_of_outcome_ok (hwork ▸ hout)⟩

/-- The overall deadline is the caller's, or else the usual time limit after the start. -/
theorem overallDeadline_eq {deadline : Option Instant} {now overall : Instant}
    (h : c.overallDeadline deadline now = some overall) :
    overall = deadline.getD (now + c.timeout.nanos) := by
  unfold overallDeadline Instant.after? at h
  cases deadline with
  | some d => simpa using h.symm
  | none =>
    simp only at h
    split at h
    · simpa using h.symm
    · cases h

end Caller

/-! ## Calls -/

/-- Whatever the strategy, the work, the clock and the deadlines are: a call that returns, after a
number of attempts that fits into a word, takes the course of a call whose first attempt has the
overall deadline and starts at once; the numbers of the attempts fit into a word as well; and the
record does not depend on how many more attempts might have been made. -/
theorem call_course (c : Caller) (method : String) (deadline : Option Instant)
    (work : Attempt → Work α) (now : Instant) (fuel : Nat) (result : Except Status α)
    (h : (c.call method deadline work now fuel).ending = .returned result)
    (hcount : (c.call method deadline work now fuel).tries.length < UInt32.size) :
    let overall := deadline.getD (now + c.timeout.nanos)
    let tries := (c.call method deadline work now fuel).tries
    CallCourse c method overall work ⟨1, overall⟩ now tries result ∧
    (∀ t ∈ tries, t.attempt.number < UInt32.size) ∧
    ∀ more, c.call method deadline work now (fuel + more) =
      c.call method deadline work now fuel := by
  intro overall tries
  cases hd : c.overallDeadline deadline now with
  | none => simp [Caller.call, hd] at h
  | some instant =>
    have hoverall : instant = overall := c.overallDeadline_eq hd
    have hcall : ∀ fuel, c.call method deadline work now fuel =
        c.attempts method overall work fuel ⟨1, overall⟩ now := by
      intro fuel
      simp [Caller.call, hd, hoverall]
    have course : CallCourse c method overall work ⟨1, overall⟩ now tries result := by
      simp only [tries, hcall] at h ⊢
      exact c.attempts_course method overall work fuel _ now h
    refine ⟨course, ?_, ?_⟩
    · intro t ht
      have hmem : t.attempt.number ∈ List.range' 1 tries.length :=
        course.numbered ▸ List.mem_map_of_mem ht
      have hle : t.attempt.number < 1 + tries.length := (List.mem_range'_1.1 hmem).2
      have hfew : tries.length < UInt32.size := hcount
      omega
    · intro more
      rw [hcall] at h
      rw [hcall, hcall]
      exact c.attempts_add method overall work fuel more _ now h

/-- Work that is refused at first, would succeed too late when it is tried again, and succeeds
then. -/
def settlingWork (a : Attempt) : Work Nat :=
  if a.number = 1 then
    { takes := some .zero, result := .error { code := .unavailable, message := "" } }
  else if a.number = 2 then { takes := some (.ofMillis 300), result := .ok 2 }
  else { takes := some (.ofMillis 5), result := .ok a.number }

/-- A caller that tries again after a delay and then at once, and gives each further attempt a
fifth of a second. -/
def patientCaller : Caller where
  strategy := some
    (.scripted [some (.ofMillis 10), some .zero] (some (Policy.windowEnd (.ofMillis 200))))
  timeout := .ofMillis 5000
  clock := .coarse

theorem call_course_third_attempt :
    let run := patientCaller.call subscribePath none settlingWork 0 4
    run.ending = .returned (.ok 3) ∧ run.tries.length = 3 ∧
    run.tries.map (·.started) = [0, 10000000, 210000000] ∧
    (run.tries[1]?).map (fun t => (t.outcome, t.ended)) = some (.error outOfTime, 210000000) ∧
    CallCourse patientCaller subscribePath 5000000000 settlingWork ⟨1, 5000000000⟩ 0 run.tries
      (.ok 3) :=
  ⟨rfl, by decide +kernel, by decide +kernel, by decide +kernel,
    (call_course patientCaller subscribePath none settlingWork 0 4 (.ok 3) rfl (by decide)).1⟩

end PubSub
