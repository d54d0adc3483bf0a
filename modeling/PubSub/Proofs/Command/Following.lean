import PubSub.Command.Run
import PubSub.Proofs.Client.Patience

/-!
# Following

What following a topic writes, and when it stops.

The limit is looked at before each event, so the question is which events are read at all: before
each of them an item was missing.  What was written is then known from the events, whatever comes
after them, and how following ends is known from the first answer that is no event.

* `FollowJob.shown`: the lines for some events.
* `FollowJob.Completes`, `FollowJob.Misses`: whether they hold the items that are wanted.
* `FollowJob.Ends`: the ways in which following can end.
* `FollowJob.runRest_of_delivers`: what is written while events are delivered.
* `FollowJob.run_of_ends`, `FollowJob.ends_of_run`: following ends in these ways and in no others.
-/

namespace PubSub

/-! ## What a command writes -/

/-- The text of a line; none for a notice. -/
def Output.line? : Output → Option String
  | line text => some text
  | notice _ => none

namespace Command

/-- Whether a command has ended, in success or in failure. -/
def Ending.Ended : Ending → Prop
  | success | failure _ => True
  | waiting | unfinished | overflow => False

/-- The lines that a command wrote, apart from notices. -/
def Performance.lines (p : Performance) : List String := p.output.filterMap Output.line?

theorem Performance.lines_after (p : Performance) (output : List Output) :
    (p.after output).lines = output.filterMap Output.line? ++ p.lines := List.filterMap_append

end Command

theorem Output.lines_notices (notices : List Notice) :
    (notices.map Output.notice).filterMap Output.line? = [] := by
  rw [List.filterMap_map, List.filterMap_eq_nil_iff]
  exact fun _ _ => rfl

theorem Output.lines_lines (texts : List String) :
    (texts.map Output.line).filterMap Output.line? = texts := by
  rw [List.filterMap_map]
  exact List.filterMap_some

/-! ## Events -/

/-- The line for an event. -/
def Event.text : Event → String
  | item i => "[" ++ toString i.number.toNat ++ "] " ++ i.value.display
  | discontinuity d =>
    "-- discontinuity: " ++ toString d.last.toNat ++ " -> " ++ toString d.new.toNat
  | heartbeat => "-- heartbeat"

/-- An event has a line if it is an item or if all are wanted. -/
theorem Event.line?_eq (verbose : Bool) (e : Event) :
    e.line? verbose = if e.isItem || verbose then some e.text else none := by
  cases e <;> cases verbose <;> rfl

namespace FollowJob

/-- The lines for some events. -/
def shown (job : FollowJob) (es : List Event) : List String :=
  (es.filter fun e => e.isItem || job.verbose).map Event.text

theorem shown_cons (job : FollowJob) (e : Event) (es : List Event) :
    job.shown (e :: es) = (e.line? job.verbose).toList ++ job.shown es := by
  rw [shown, List.filter_cons, Event.line?_eq]
  split <;> rfl

/-- Some item that is wanted is not among these events. -/
def Misses (job : FollowJob) (es : List Event) : Prop :=
  ∀ limit, job.limit = some limit → es.countP Event.isItem < limit.toNat

/-- These events hold all items that are wanted, and end with the last of them. -/
def Completes (job : FollowJob) (es : List Event) : Prop :=
  ∃ limit, job.limit = some limit ∧ es.countP Event.isItem = limit.toNat ∧
    ∀ e, es.getLast? = some e → e.isItem = true

/-- An item was missing before each of these events, given how many had come before them. -/
def Continues (job : FollowJob) (received : Nat) (es : List Event) : Prop :=
  ∀ before e after, es = before ++ e :: after →
    job.satisfied (received + before.countP Event.isItem) = false

variable {job : FollowJob} {received : Nat} {es : List Event}

theorem add_countP_cons (received : Nat) (e : Event) (es : List Event) :
    received + (e :: es).countP Event.isItem =
      received + (if e.isItem then 1 else 0) + es.countP Event.isItem := by
  rw [List.countP_cons, Nat.add_comm (es.countP Event.isItem), ← Nat.add_assoc]

theorem satisfied_iff :
    job.satisfied received = true ↔ ∃ limit, job.limit = some limit ∧ limit.toNat ≤ received := by
  unfold satisfied
  cases job.limit <;> simp

theorem satisfied_eq_false_iff :
    job.satisfied received = false ↔ ∀ limit, job.limit = some limit → received < limit.toNat := by
  unfold satisfied
  cases job.limit <;> simp

namespace Continues

theorem nil : job.Continues received [] := by
  intro before e after h
  cases before <;> cases h

theorem cons {e : Event} (hmissing : job.satisfied received = false)
    (h : job.Continues (received + if e.isItem then 1 else 0) es) :
    job.Continues received (e :: es) := by
  intro before d after hsplit
  cases before with
  | nil => exact hmissing
  | cons c before =>
    cases hsplit
    rw [add_countP_cons]
    exact h before d after rfl

theorem head {e : Event} (h : job.Continues received (e :: es)) :
    job.satisfied received = false := h [] e es rfl

theorem tail {e : Event} (h : job.Continues received (e :: es)) :
    job.Continues (received + if e.isItem then 1 else 0) es := by
  intro before d after hsplit
  have hmore := h (e :: before) d after (by rw [hsplit]; rfl)
  rwa [add_countP_cons] at hmore

end Continues

/-- What is missing in the end was missing before. -/
theorem Misses.continues (h : job.Misses es) : job.Continues 0 es := by
  intro before e after hsplit
  rw [Nat.zero_add, satisfied_eq_false_iff]
  intro limit hlimit
  have hless := h limit hlimit
  rw [hsplit, List.countP_append] at hless
  exact Nat.lt_of_le_of_lt (Nat.le_add_right _ _) hless

theorem Completes.continues (h : job.Completes es) : job.Continues 0 es := by
  rcases h with ⟨limit, hlimit, hcount, hlast⟩
  intro before e after hsplit
  rw [Nat.zero_add, satisfied_eq_false_iff]
  intro other hother
  obtain rfl : limit = other := Option.some.inj (hlimit.symm.trans hother)
  -- the last event is an item that comes after these
  have hitem : 0 < (e :: after).countP Event.isItem := by
    have hend : (e :: after).getLast? = some ((e :: after).getLast (by simp)) :=
      List.getLast?_eq_some_getLast _
    rw [List.countP_pos_iff]
    refine ⟨_, List.mem_of_getLast? hend, hlast _ ?_⟩
    rw [hsplit, List.getLast?_append, hend]
    rfl
  rw [hsplit, List.countP_append] at hcount
  exact hcount ▸ Nat.lt_add_of_pos_right hitem

/-- Events with all items of which none was superfluous. -/
theorem Continues.completes (h : job.Continues 0 es)
    (hsatisfied : job.satisfied (es.countP Event.isItem) = true) : job.Completes es := by
  rcases satisfied_iff.1 hsatisfied with ⟨limit, hlimit, hcount⟩
  rcases List.eq_nil_or_concat' es with rfl | ⟨before, e, rfl⟩
  · exact ⟨limit, hlimit, Nat.le_antisymm (Nat.zero_le _) hcount, by simp⟩
  · -- the last event was read since an item was missing before it, so it has to be that item
    have hmissing := satisfied_eq_false_iff.1 (h before e [] rfl) limit hlimit
    rw [Nat.zero_add] at hmissing
    rw [List.countP_append, List.countP_singleton] at hcount
    cases hitem : e.isItem with
    | false =>
      rw [hitem] at hcount
      exact absurd hmissing (Nat.not_lt_of_le hcount)
    | true =>
      rw [hitem] at hcount
      refine ⟨limit, hlimit, ?_, by simpa using hitem⟩
      rw [List.countP_append, List.countP_singleton, hitem]
      exact Nat.le_antisymm hmissing hcount

theorem Completes.satisfied (h : job.Completes es) :
    job.satisfied (es.countP Event.isItem) = true := by
  rcases h with ⟨limit, hlimit, hcount, -⟩
  exact satisfied_iff.2 ⟨limit, hlimit, Nat.le_of_eq hcount.symm⟩

/-! ## Reading on -/

variable {s t : Subscriber} {patience fuel : Nat}

theorem runRest_of_satisfied (h : job.satisfied received = true) :
    job.runRest patience fuel received s =
      { client := s.disconnect.client, ending := .success
        output := [.notice (.finished received)] } := by
  cases fuel <;> rw [runRest, if_pos h]

theorem runRest_event {e : Event} (hmissing : job.satisfied received = false)
    (hanswer : (s.event patience).answer = .ok e) :
    job.runRest patience (fuel + 1) received s =
      (job.runRest patience fuel (received + if e.isItem then 1 else 0)
        (s.event patience).next).after
        ((s.event patience).notices.map .notice ++ (e.line? job.verbose).toList.map .line) := by
  rw [runRest, if_neg (by simp [hmissing])]
  simp only [hanswer]
  cases e.isItem <;> rfl

theorem runRest_error {e : TopicError} (hmissing : job.satisfied received = false)
    (hanswer : (s.event patience).answer = .error e) :
    job.runRest patience (fuel + 1) received s =
      { client := (s.event patience).next.disconnect.client, ending := .failure (.event e)
        output := (s.event patience).notices.map .notice } := by
  rw [runRest, if_neg (by simp [hmissing])]
  simp only [hanswer]

/-- As long as events are delivered and items are missing, the lines for these events are written
and reading goes on behind them. -/
theorem runRest_of_delivers (h : s.Delivers es t) :
    ∃ output, output.filterMap Output.line? = job.shown es ∧
      ∃ enough, ∀ patience ≥ enough, ∀ received fuel, job.Continues received es →
        job.runRest patience (es.length + fuel) received s =
          (job.runRest patience fuel (received + es.countP Event.isItem) t).after output := by
  -- each event was delivered with a patience of its own; the greatest of them serves for all
  induction h with
  | nil s =>
    refine ⟨[], rfl, 0, ?_⟩
    intro patience _ received fuel _
    rw [List.length_nil, Nat.zero_add]
    rfl
  | @cons s t once e es hfirst hrest ih =>
    rcases ih with ⟨output, hlines, enough, hgoes⟩
    refine ⟨(s.event once).notices.map .notice ++ (e.line? job.verbose).toList.map .line ++ output,
      ?_, max once enough, ?_⟩
    · rw [List.filterMap_append, List.filterMap_append, Output.lines_notices, Output.lines_lines,
        hlines, shown_cons]
      rfl
    · intro patience hpatience received fuel hcontinues
      have hsame : s.event patience = s.event once :=
        Subscriber.event_of_le (Nat.le_trans (Nat.le_max_left _ _) hpatience) (by simp [hfirst])
      have hanswer : (s.event patience).answer = .ok e := hsame ▸ hfirst
      have hmore := hgoes patience (Nat.le_trans (Nat.le_max_right _ _) hpatience) _ fuel
        hcontinues.tail
      rw [List.length_cons, Nat.add_right_comm, runRest_event hcontinues.head hanswer, hsame, hmore,
        add_countP_cons]
      simp only [Command.Performance.after, List.append_assoc]

/-- How reading on stops: when all items have come, when no event comes but an error, or without an
end. -/
inductive Stops (job : FollowJob) (received : Nat) (t : Subscriber) :
    Command.Ending → Client → Prop where
  | complete (h : job.satisfied received = true) : Stops job received t .success t.disconnect.client
  | failed {e : TopicError} (patience : Nat) (hmissing : job.satisfied received = false)
      (hanswer : (t.event patience).answer = .error e) :
      Stops job received t (.failure (.event e)) (t.event patience).next.disconnect.client
  | onwards {ending : Command.Ending} {client : Client} (h : ¬ ending.Ended) :
      Stops job received t ending client

/-- Whatever becomes of it, reading on is the delivery of some events, none of them superfluous,
whose lines are written. -/
theorem runRest_course (job : FollowJob) (patience fuel received : Nat) (s : Subscriber) :
    ∃ es t, s.Delivers es t ∧ job.Continues received es ∧
      (job.runRest patience fuel received s).lines = job.shown es ∧
      job.Stops (received + es.countP Event.isItem) t
        (job.runRest patience fuel received s).ending
        (job.runRest patience fuel received s).client := by
  -- the number of items that came before goes up with the items, and the limit is tested against it
  induction fuel generalizing received s with
  | zero =>
    refine ⟨[], s, .nil s, .nil, ?_⟩
    cases hsatisfied : job.satisfied received with
    | true =>
      rw [runRest_of_satisfied hsatisfied]
      exact ⟨rfl, .complete hsatisfied⟩
    | false =>
      rw [runRest, if_neg (by simp [hsatisfied])]
      exact ⟨rfl, .onwards not_false⟩
  | succ fuel ih =>
    cases hsatisfied : job.satisfied received with
    | true =>
      rw [runRest_of_satisfied hsatisfied]
      exact ⟨[], s, .nil s, .nil, rfl, .complete hsatisfied⟩
    | false =>
      cases hanswer : (s.event patience).answer with
      | ok e =>
        rcases ih (received + if e.isItem then 1 else 0) (s.event patience).next with
          ⟨es, t, hdelivers, hcontinues, hlines, hstops⟩
        refine ⟨e :: es, t, .cons hanswer hdelivers, hcontinues.cons hsatisfied, ?_, ?_⟩
        · rw [runRest_event hsatisfied hanswer, Command.Performance.lines_after,
            List.filterMap_append, Output.lines_notices, Output.lines_lines, hlines, shown_cons]
          rfl
        · rw [runRest_event hsatisfied hanswer, add_countP_cons]
          exact hstops
      | error e =>
        rw [runRest_error hsatisfied hanswer]
        exact ⟨[], s, .nil s, .nil, Output.lines_notices _, .failed patience hsatisfied hanswer⟩
      | waiting | unfinished | overflow =>
        refine ⟨[], s, .nil s, .nil, ?_⟩
        rw [runRest, if_neg (by simp [hsatisfied])]
        simp only [hanswer]
        exact ⟨Output.lines_notices _, .onwards not_false⟩

/-! ## Following -/

/-- A client can open a subscription and becomes the subscriber. -/
def Opens (job : FollowJob) (c : Client) (s : Subscriber) : Prop :=
  ∃ fuel subscription, (c.subscribe job.request fuel).answer = .ok subscription ∧
    s = ⟨(c.subscribe job.request fuel).next, subscription⟩

/-- The ways in which following can end: the lines that were written, the ending, and the client. -/
inductive Ends (job : FollowJob) (c : Client) : List String → Command.Ending → Client → Prop where
  | refused {fuel : Nat} {e : TopicError}
      (hanswer : (c.subscribe job.request fuel).answer = .error e) :
      Ends job c [] (.failure (.subscribe job.cache job.topic e))
        (c.subscribe job.request fuel).next
  | complete {s t : Subscriber} {es : List Event} (hopens : job.Opens c s)
      (hdelivers : s.Delivers es t) (hcomplete : job.Completes es) :
      Ends job c (job.shown es) .success t.disconnect.client
  | failed {s t : Subscriber} {es : List Event} {fuel : Nat} {e : TopicError}
      (hopens : job.Opens c s) (hdelivers : s.Delivers es t) (hmissing : job.Misses es)
      (hanswer : (t.event fuel).answer = .error e) :
      Ends job c (job.shown es) (.failure (.event e)) (t.event fuel).next.disconnect.client

variable {c d : Client} {lines : List String} {ending : Command.Ending}

/-- If the subscription is opened, following is reading on from there. -/
theorem run_of_ok {x : Subscription} (h : (c.subscribe job.request patience).answer = .ok x) :
    job.run patience c =
      (job.runRest patience patience 0 ⟨(c.subscribe job.request patience).next, x⟩).after
        ((c.subscribe job.request patience).notices.map .notice ++
          [.notice (.subscribed job.cache job.topic)]) := by
  rw [run]
  simp only [h]

theorem run_of_error {e : TopicError} (h : (c.subscribe job.request patience).answer = .error e) :
    job.run patience c =
      { client := (c.subscribe job.request patience).next
        output := (c.subscribe job.request patience).notices.map .notice
        ending := .failure (.subscribe job.cache job.topic e) } := by
  rw [run]
  simp only [h]
  rfl

/-- While a subscription delivers and items are missing, following comes to reading on behind what
was delivered. -/
theorem run_of_opens (hopens : job.Opens c s) (hdelivers : s.Delivers es t)
    (hcontinues : job.Continues 0 es) :
    ∃ output, output.filterMap Output.line? = job.shown es ∧
      ∃ enough, ∀ patience ≥ enough, ∃ more, job.run patience c =
        (job.runRest patience (more + 1) (es.countP Event.isItem) t).after output := by
  rcases hopens with ⟨once, x, hanswer, rfl⟩
  rcases runRest_of_delivers hdelivers with ⟨output, hlines, enough, hgoes⟩
  refine ⟨(c.subscribe job.request once).notices.map .notice ++
    [.notice (.subscribed job.cache job.topic)] ++ output, ?_,
    max once (max enough (es.length + 1)), ?_⟩
  · rw [List.filterMap_append, List.filterMap_append, Output.lines_notices, hlines]
    rfl
  · intro patience hpatience
    have honce : once ≤ patience := Nat.le_trans (Nat.le_max_left _ _) hpatience
    have hrest := Nat.le_trans (Nat.le_max_right _ _) hpatience
    have hsame : c.subscribe job.request patience = c.subscribe job.request once :=
      Client.subscribe_of_le honce (by simp [hanswer])
    rcases Nat.exists_eq_add_of_le (Nat.le_trans (Nat.le_max_right _ _) hrest) with ⟨more, hmore⟩
    have hfuel : patience = es.length + (more + 1) := by
      rw [hmore, Nat.add_right_comm, Nat.add_assoc]
    have hread := hgoes patience (Nat.le_trans (Nat.le_max_left _ _) hrest) 0 (more + 1) hcontinues
    rw [← hfuel, Nat.zero_add] at hread
    refine ⟨more, ?_⟩
    rw [run_of_ok (hsame ▸ hanswer), hsame, hread]
    simp only [Command.Performance.after, List.append_assoc]

/-- What can end, ends so, given enough patience. -/
theorem run_of_ends (h : job.Ends c lines ending d) :
    ∃ enough, ∀ patience ≥ enough, (job.run patience c).lines = lines ∧
      (job.run patience c).ending = ending ∧ (job.run patience c).client = d := by
  cases h with
  | @refused once e hanswer =>
    refine ⟨once, ?_⟩
    intro patience hpatience
    have hsame : c.subscribe job.request patience = c.subscribe job.request once :=
      Client.subscribe_of_le hpatience (by simp [hanswer])
    rw [run_of_error (hsame ▸ hanswer), hsame]
    exact ⟨Output.lines_notices _, rfl, rfl⟩
  | complete hopens hdelivers hcomplete =>
    rcases run_of_opens hopens hdelivers hcomplete.continues with ⟨output, hlines, enough, hgoes⟩
    refine ⟨enough, ?_⟩
    intro patience hpatience
    rcases hgoes patience hpatience with ⟨more, hrun⟩
    rw [hrun, runRest_of_satisfied hcomplete.satisfied, Command.Performance.lines_after, hlines]
    exact ⟨List.append_nil _, rfl, rfl⟩
  | @failed s t es once e hopens hdelivers hmissing hanswer =>
    rcases run_of_opens hopens hdelivers hmissing.continues with ⟨output, hlines, enough, hgoes⟩
    refine ⟨max once enough, ?_⟩
    intro patience hpatience
    have hsame : t.event patience = t.event once :=
      Subscriber.event_of_le (Nat.le_trans (Nat.le_max_left _ _) hpatience) (by simp [hanswer])
    rcases hgoes patience (Nat.le_trans (Nat.le_max_right _ _) hpatience) with ⟨more, hrun⟩
    have hunsatisfied := satisfied_eq_false_iff.2 hmissing
    rw [hrun, runRest_error hunsatisfied (hsame ▸ hanswer), hsame,
      Command.Performance.lines_after, hlines]
    refine ⟨?_, rfl, rfl⟩
    rw [Command.Performance.lines, Output.lines_notices, List.append_nil]

/-- Whatever becomes of following once the subscription was opened, the lines that were written are
those for the events that it has delivered, none of them superfluous. -/
theorem run_course {x : Subscription} (h : (c.subscribe job.request patience).answer = .ok x) :
    ∃ es t, Subscriber.Delivers ⟨(c.subscribe job.request patience).next, x⟩ es t ∧
      job.Continues 0 es ∧ (job.run patience c).lines = job.shown es ∧
      job.Stops (es.countP Event.isItem) t (job.run patience c).ending
        (job.run patience c).client := by
  rcases job.runRest_course patience patience 0 ⟨(c.subscribe job.request patience).next, x⟩ with
    ⟨es, t, hdelivers, hcontinues, hlines, hstops⟩
  rw [Nat.zero_add] at hstops
  rw [run_of_ok h, Command.Performance.lines_after, hlines, List.filterMap_append,
    Output.lines_notices]
  exact ⟨es, t, hdelivers, hcontinues, rfl, hstops⟩

/-- Following ends in no other way. -/
theorem ends_of_run (hended : (job.run patience c).ending.Ended) :
    job.Ends c (job.run patience c).lines (job.run patience c).ending
      (job.run patience c).client := by
  cases hanswer : (c.subscribe job.request patience).answer with
  | ok x =>
    rcases run_course hanswer with ⟨es, t, hdelivers, hcontinues, hlines, hstops⟩
    have hopens : job.Opens c _ := ⟨patience, x, hanswer, rfl⟩
    rw [hlines]
    generalize (job.run patience c).ending = ending at hstops hended
    generalize (job.run patience c).client = d at hstops
    cases hstops with
    | complete h => exact .complete hopens hdelivers (hcontinues.completes h)
    | failed again hmissing herror =>
      exact .failed hopens hdelivers (satisfied_eq_false_iff.1 hmissing) herror
    | onwards h => exact absurd hended h
  | error e =>
    rw [run_of_error hanswer, Command.Performance.lines, Output.lines_notices]
    exact .refused hanswer
  | waiting | unfinished | overflow =>
    rw [run] at hended
    simp only [hanswer] at hended
    exact absurd hended not_false

end FollowJob

end PubSub
