import PubSub.Proofs.Client.Opening
import PubSub.Proofs.Client.Slots
import PubSub.Proofs.Retry.Termination

/-!
# Persistence

How long a subscription goes on when its streams fail.

The subscription has a count of its own.  A stream that breaks and a stream that cannot be opened
are counted alike, an event that is delivered sets the count back to zero, and nothing else touches
it.  It is not a bound by itself, since every retry leads to a new stream that may break: what goes
down from round to round is the number of retries that are left, together with the stream that is
still to be opened.  Only a clean end makes up for that, which is not counted.

* `Mark`: what the service does in a round; `Subscriber.marks`: in all rounds of a call.
* `Subscriber.Marked`: what a round does, in view of what it shows; `Subscriber.Passed.marked`:
  every round does that.
* `Subscriber.Ledger`: the account of failures; `Subscriber.ledger_event`: a call keeps it.
* `Subscriber.Bounded`: how long a call goes on; `Subscriber.bounded_event`: no longer.
* `Subscriber.Lives`: all calls since a subscription was opened.
* `resuming_bounded`: what follows for every subscription, as long as its count does not run over.
* `resuming_runs_over`: a count that is full starts again at zero, and so do the retries.
-/

namespace PubSub

/-! ## Failures -/

def Act.isOpening : Act → Bool
  | .opened _ => true
  | _ => false

def Act.isRequest : Act → Bool
  | .subscribed .. => true
  | _ => false

/-- The failure about which the strategy was asked, if that is what happened. -/
def Act.failure? : Act → Option Failure
  | .asked f => some f
  | _ => none

namespace Client

theorem openCount_eq (c : Client) : c.openCount = (c.history.filter Act.isOpening).length := rfl

theorem subscribeCount_eq (c : Client) :
    c.subscribeCount = (c.history.filter Act.isRequest).length := rfl

/-- The failures of subscriptions about which the strategy was asked. -/
def consulted (c : Client) : List Failure := c.history.filterMap Act.failure?

theorem consulted_record (c : Client) (acts : List Act) :
    (c.record acts).consulted = c.consulted ++ acts.filterMap Act.failure? :=
  List.filterMap_append

/-- In the opening of a stream nothing is asked about the failures of the subscription. -/
theorem consulted_openStream (c : Client) (r : SubscribeRequest) (fuel : Nat) :
    (c.openStream r fuel).next.consulted = c.consulted := by
  rcases c.openStream_next r fuel with ⟨pool, now, requests, -, hnext⟩
  have hnone : (List.replicate requests (Act.subscribed r.toMessage c.metadata)).filterMap
      Act.failure? = [] := by
    rw [List.filterMap_eq_nil_iff]
    intro act hact
    rw [List.eq_of_mem_replicate hact]
    rfl
  rw [hnext, consulted, List.filterMap_append, List.filterMap_cons_none rfl, hnone,
    List.append_nil]
  rfl

end Client

/-! ## Calls with counted retries -/

theorem Caller.length_tries_le {α : Type} (c : Caller) (method : String) (overall : Instant)
    (work : Attempt → Work α) (fuel : Nat) (a : Attempt) (now : Instant) :
    (c.attempts method overall work fuel a now).tries.length ≤ fuel := by
  induction fuel generalizing a now with
  | zero => exact Nat.le_refl 0
  | succ fuel ih =>
    rcases c.tries_succ method overall work fuel a now with hlast | ⟨b, start, -, hmore⟩
    · rw [hlast]
      exact Nat.succ_le_succ (Nat.zero_le fuel)
    · rw [hmore]
      exact Nat.succ_le_succ (ih b start)

namespace Client

variable {c : Client} {rule : Eligibility} {retries : Nat}

/-- With counted retries a call for a stream that has a deadline returns after one attempt more than
there are retries at the latest. -/
theorem establishing_counted (hpolicy : c.policy = .counted rule retries) (r : SubscribeRequest)
    {fuel : Nat} (hfuel : retries < fuel) :
    (Instant.after? c.now c.requestTimeout = none ∧
        c.establishing r fuel = ⟨[], .overflow, c.now⟩) ∨
      ((∃ outcome, (c.establishing r fuel).ending = .returned outcome) ∧
        (c.establishing r fuel).tries.length ≤ retries + 1) := by
  rcases c.establishing_cases r fuel with hnone | hmade
  · exact Or.inl hnone
  · have hs := c.strategy_caller
    rw [hpolicy] at hs
    have hfirst : (⟨1, c.now + c.requestTimeout.nanos⟩ : Attempt).number + retries = retries + 1 :=
      Nat.add_comm 1 retries
    rcases Caller.attempts_counted hs hfirst c.now with ⟨n, -, hn, hrun⟩
    rw [hmade, hrun fuel hfuel]
    exact Or.inr ⟨⟨_, rfl⟩, by simpa using hn⟩

theorem length_establishing_le (hpolicy : c.policy = .counted rule retries)
    (r : SubscribeRequest) (fuel : Nat) :
    (c.establishing r fuel).tries.length ≤ retries + 1 := by
  rcases Nat.lt_or_ge retries fuel with henough | hfew
  · rcases establishing_counted hpolicy r henough with ⟨-, hnone⟩ | ⟨-, hlength⟩
    · rw [hnone]
      exact Nat.zero_le _
    · exact hlength
  · rcases c.establishing_cases r fuel with ⟨-, hnone⟩ | hmade
    · rw [hnone]
      exact Nat.zero_le _
    · rw [hmade]
      have hlength := c.caller.length_tries_le subscribePath (c.now + c.requestTimeout.nanos)
        (fun a => c.service.subscribe (c.subscribeCount + a.number - 1) r.toMessage) fuel
        ⟨1, c.now + c.requestTimeout.nanos⟩ c.now
      omega

theorem openOn_counted (hpolicy : c.policy = .counted rule retries) (link : Nat)
    (r : SubscribeRequest) {fuel : Nat} (hfuel : retries < fuel) :
    let opening := c.openOn link r fuel
    opening.answer ≠ .unfinished ∧
      (opening.answer = .overflow →
        Instant.after? opening.next.now c.requestTimeout = none) := by
  intro opening
  have hsettled := c.openOn_settled link r fuel
  rcases establishing_counted hpolicy r hfuel with ⟨hafter, hnone⟩ | ⟨⟨outcome, hreturned⟩, -⟩
  · have hopening : opening = { answer := .overflow, next := (c.record []).release link } := by
      simp only [opening, openOn_eq, hnone]
      rfl
    rw [hopening]
    exact ⟨nofun, fun _ => hafter⟩
  · constructor
    · intro hunfinished
      cases hreturned.symm.trans (hsettled.unfinished_iff.1 hunfinished)
    · intro hoverflow
      cases hreturned.symm.trans (hsettled.overflow_iff.1 hoverflow)

/-- With counted retries the opening of a stream is not cut off if it might make as many attempts as
that, and it has a deadline unless that cannot be represented. -/
theorem openStream_counted (hpolicy : c.policy = .counted rule retries) (r : SubscribeRequest)
    {fuel : Nat} (hfuel : retries < fuel) :
    let opening := c.openStream r fuel
    opening.answer ≠ .unfinished ∧
      (opening.answer = .overflow →
        Instant.after? opening.next.now c.requestTimeout = none) := by
  intro opening
  simp only [opening, openStream]
  split
  · exact ⟨nofun, nofun⟩
  · split
    · exact openOn_counted (c := c.asking r) hpolicy _ r hfuel
    · exact ⟨nofun, nofun⟩

end Client

/-! ## What a policy may say -/

/-- A policy may answer a failure of a subscription, with a code and a number, by a retry. -/
def Policy.MayRetry (p : Policy) (code : StatusCode) (attempt : Nat) : Prop :=
  ∃ draw now delay f, f.code = code ∧ f.method = subscribePath ∧ f.attempt = attempt ∧
    p.decide draw now f = .retryAfter delay

/-- A policy may give up on a failure of a subscription with a code and a number. -/
def Policy.MayGiveUp (p : Policy) (code : StatusCode) (attempt : Nat) : Prop :=
  ∃ draw now f, f.code = code ∧ f.method = subscribePath ∧ f.attempt = attempt ∧
    p.decide draw now f = .giveUp

theorem Policy.not_mayRetry_never (code : StatusCode) (attempt : Nat) :
    ¬ never.MayRetry code attempt := by
  rintro ⟨draw, now, delay, f, -, -, -, hdelay⟩
  cases hdelay

theorem Policy.mayRetry_counted {rule : Eligibility} {retries attempt : Nat} {code : StatusCode}
    (h : (counted rule retries).MayRetry code attempt) :
    rule.accepts code subscribePath = true ∧ attempt ≤ retries := by
  rcases h with ⟨draw, now, delay, f, rfl, hmethod, rfl, hdelay⟩
  simp only [Policy.decide, hmethod] at hdelay
  split at hdelay
  · rename_i hmay
    simpa using hmay
  · cases hdelay

theorem Policy.mayGiveUp_counted {rule : Eligibility} {retries attempt : Nat} {code : StatusCode}
    (h : (counted rule retries).MayGiveUp code attempt) :
    rule.accepts code subscribePath = false ∨ retries < attempt := by
  rcases h with ⟨draw, now, f, rfl, hmethod, rfl, hgives⟩
  simp only [Policy.decide, hmethod] at hgives
  split at hgives
  · cases hgives
  · rename_i hnot
    by_cases hmay : rule.accepts f.code subscribePath = true
    · have hmany : ¬ f.attempt ≤ retries := by simpa [hmay] using hnot
      exact Or.inr (Nat.lt_of_not_le hmany)
    · exact Or.inl (by simpa using hmay)

/-! ## What the service does -/

/-- What a round of waiting for an event shows of the service. -/
inductive Mark where
  | opened
  | ended
  | malformed (fault : MessageFault)
  /-- A stream broke, or could not be opened. -/
  | failed (e : TopicError)
  | delivered (e : Event)
  deriving DecidableEq

namespace Mark

/-- The failures among marks. -/
def failures (marks : List Mark) : List TopicError :=
  marks.filterMap fun
    | failed e => some e
    | _ => none

def isDelivery : Mark → Bool
  | delivered _ => true
  | _ => false

/-- The number of failures behind the last event that was delivered. -/
def sinceDelivery (marks : List Mark) : Nat :=
  (failures (marks.reverse.takeWhile fun m => !m.isDelivery)).length

/-- The number of failures with one more mark. -/
def tally (count : Nat) : Mark → Nat
  | failed _ => count + 1
  | delivered _ => 0
  | opened | ended | malformed _ => count

theorem sinceDelivery_concat (marks : List Mark) (m : Mark) :
    sinceDelivery (marks ++ [m]) = m.tally (sinceDelivery marks) := by
  cases m <;> simp [sinceDelivery, failures, isDelivery, tally]

theorem sinceDelivery_append (marks more : List Mark) :
    sinceDelivery (marks ++ more) = more.foldl tally (sinceDelivery marks) := by
  induction more generalizing marks with
  | nil => rw [List.append_nil, List.foldl_nil]
  | cons m more ih =>
    rw [List.foldl_cons, ← sinceDelivery_concat, ← ih]
    simp

end Mark

/-- What a reader makes of something that arrives. -/
def Arrival.mark : Arrival → Mark
  | message m =>
    match Event.ofMessage m with
    | .ok e => .delivered e
    | .error fault => .malformed fault
  | ended => .ended
  | failed status => .failed (.service status)

/-- What an opening that comes to an answer shows. -/
def Outcome.mark? {α : Type} : Outcome α → Option Mark
  | ok _ => some .opened
  | error e => some (.failed e)
  | waiting | unfinished | overflow => none

namespace Subscriber

/-- What a round shows of the service, if anything. -/
def mark? (s : Subscriber) (fuel : Nat) : Option Mark :=
  match s.subscription.stream with
  | none => if s.client.closed then none else (s.opening fuel).answer.mark?
  | some stream =>
    if linkClosed s.client stream then none
    else stream.feed.head?.map fun signal =>
      (signal.arrival.within s.client.receiveLimit).mark

/-- What the rounds of waiting for an event show, one after another. -/
def marks : Nat → Subscriber → List Mark
  | 0, _ => []
  | fuel + 1, s =>
    (s.mark? fuel).toList ++
      match (s.round fuel).answer with
      | .done _ => []
      | .again => marks fuel (s.round fuel).next

/-! ## Rounds -/

/-- The ways in which the strategy is asked about a failure: the instant by which a further attempt
would have to succeed cannot be represented, or the failure is counted and the policy decides. -/
theorem judge_cases (s : Subscriber) (code : StatusCode) :
    (Instant.after? s.client.now s.client.requestTimeout = none ∧ s.judge code = (none, s)) ∨
    ∃ overall draw, s.judge code =
      (some (s.client.policy.decide draw s.client.now
          ⟨code, subscribePath, (s.subscription.failures + 1).toNat, overall⟩),
        { client := s.client.record
            [.asked ⟨code, subscribePath, (s.subscription.failures + 1).toNat, overall⟩]
          subscription :=
            { s.subscription with failures := s.subscription.failures + 1 } }) := by
  unfold judge
  cases hafter : Instant.after? s.client.now s.client.requestTimeout with
  | none => exact Or.inl ⟨rfl, rfl⟩
  | some overall => exact Or.inr ⟨overall, _, rfl⟩

/-- To end a stream changes the pool of the client and the stream, and nothing else. -/
theorem disconnect_eq (s : Subscriber) : ∃ pool, s.disconnect =
    { client := { s.client with pool }, subscription := { s.subscription with stream := none } } := by
  unfold disconnect
  split
  · rename_i hnone
    exact ⟨s.client.pool, congrArg (fun stream =>
      (⟨s.client, { s.subscription with stream }⟩ : Subscriber)) hnone⟩
  · exact ⟨_, rfl⟩

/-- Subscribers whose clients have one policy and one time limit. -/
structure SameTerms (s t : Subscriber) : Prop where
  policy : t.client.policy = s.client.policy
  requestTimeout : t.client.requestTimeout = s.client.requestTimeout

theorem SameTerms.trans {s t u : Subscriber} (hst : SameTerms s t) (htu : SameTerms t u) :
    SameTerms s u where
  policy := htu.policy.trans hst.policy
  requestTimeout := htu.requestTimeout.trans hst.requestTimeout

theorem sameTerms_opening (s : Subscriber) (fuel : Nat) (subscription : Subscription) :
    SameTerms s { client := (s.opening fuel).next, subscription } := by
  rcases s.rested.openStream_next s.subscription.request fuel with ⟨pool, now, requests, -, hnext⟩
  have hopening : (s.opening fuel).next = _ := hnext
  rw [hopening]
  exact ⟨rfl, rfl⟩

theorem sameTerms_judge (s : Subscriber) (code : StatusCode) : SameTerms s (s.judge code).2 := by
  rcases s.judge_cases code with ⟨-, hjudged⟩ | ⟨overall, draw, hjudged⟩ <;> rw [hjudged] <;>
    exact ⟨rfl, rfl⟩

theorem sameTerms_disconnect (s : Subscriber) : SameTerms s s.disconnect := by
  rcases s.disconnect_eq with ⟨pool, hended⟩
  rw [hended]
  exact ⟨rfl, rfl⟩

/-- The account of failures is left alone. -/
structure Uncounted (s t : Subscriber) : Prop where
  failures : t.subscription.failures = s.subscription.failures
  consulted : t.client.consulted = s.client.consulted

theorem uncounted_disconnect (s : Subscriber) : Uncounted s s.disconnect := by
  rcases s.disconnect_eq with ⟨pool, hended⟩
  rw [hended]
  exact ⟨rfl, rfl⟩

theorem Uncounted.disconnect {s t : Subscriber} (h : Uncounted s t) :
    Uncounted s t.disconnect where
  failures := t.uncounted_disconnect.failures.trans h.failures
  consulted := t.uncounted_disconnect.consulted.trans h.consulted

theorem uncounted_opening (s : Subscriber) (fuel : Nat) (stream : Option ActiveStream) :
    Uncounted s
      { client := (s.opening fuel).next
        subscription := { s.subscription with stream := stream } } :=
  ⟨rfl, Client.consulted_openStream _ _ _⟩

/-- A failure was counted, and the strategy was asked about it. -/
structure Counted (s : Subscriber) (e : TopicError) (t : Subscriber) : Prop where
  failures : t.subscription.failures = s.subscription.failures + 1
  consulted : ∃ overall, t.client.consulted =
    s.client.consulted ++ [⟨e.code, subscribePath, (s.subscription.failures + 1).toNat, overall⟩]

theorem Counted.tally {s t : Subscriber} {e : TopicError} (h : Counted s e t) {n : Nat}
    (hn : s.subscription.failures = UInt32.ofNat n) :
    t.subscription.failures = UInt32.ofNat (Mark.tally n (.failed e)) := by
  rw [h.failures, hn]
  exact (UInt32.ofNat_add n 1).symm

/-- What a round does, in view of what it shows. -/
inductive Marked (s : Subscriber) (fuel : Nat) : Option Mark → Round → Subscriber → Prop where
  | opened {t : Subscriber} (hbefore : s.subscription.stream = none)
      (hafter : t.subscription.stream.isSome) (hsame : Uncounted s t) :
      Marked s fuel (some .opened) .again t
  | ended {t : Subscriber} (hbefore : s.subscription.stream.isSome)
      (hafter : t.subscription.stream = none) (hsame : Uncounted s t) :
      Marked s fuel (some .ended) .again t
  | malformed {t : Subscriber} {fault : MessageFault} (hsame : Uncounted s t) :
      Marked s fuel (some (.malformed fault)) (.done (.error (.unexpected (.fault fault)))) t
  | delivered {t : Subscriber} {e : Event} (hfailures : t.subscription.failures = 0)
      (hconsulted : t.client.consulted = s.client.consulted) :
      Marked s fuel (some (.delivered e)) (.done (.ok e)) t
  | retried {t : Subscriber} {e : TopicError} (hcounted : Counted s e t)
      (hafter : t.subscription.stream = none)
      (hmay : s.client.policy.MayRetry e.code (s.subscription.failures + 1).toNat) :
      Marked s fuel (some (.failed e)) .again t
  | givenUp {t : Subscriber} {e : TopicError} (hcounted : Counted s e t)
      (hmay : s.client.policy.MayGiveUp e.code (s.subscription.failures + 1).toNat) :
      Marked s fuel (some (.failed e)) (.done (.error e)) t
  | overflow {t : Subscriber} {e : TopicError}
      (hoverflow : Instant.after? t.client.now s.client.requestTimeout = none ∨
        ∃ draw now f, s.client.policy.decide draw now f = .overflow) :
      Marked s fuel (some (.failed e)) (.done .overflow) t
  | nothing {t : Subscriber} {answer : Outcome Event} (hsame : Uncounted s t)
      (hok : ∀ e, answer ≠ .ok e)
      (hwaiting : answer = .waiting →
        ∃ stream, t.subscription.stream = some stream ∧ stream.feed = [])
      (hunfinished : answer = .unfinished → (s.opening fuel).answer = .unfinished)
      (hoverflow : answer = .overflow →
        (s.opening fuel).answer = .overflow ∧ t.client = (s.opening fuel).next) :
      Marked s fuel none (.done answer) t

theorem disconnect_of_none {s : Subscriber} (h : s.subscription.stream = none) :
    s.disconnect = s := by
  unfold disconnect
  rw [h]

/-- A failure is counted once, whatever the policy says about it. -/
theorem marked_judge {s u : Subscriber} (fuel : Nat) (hsame : Uncounted s u)
    (hterms : SameTerms s u) (e : TopicError) :
    Marked s fuel (some (.failed e)) (roundAfter e (u.judge e.code).1)
      (u.judge e.code).2.disconnect := by
  rcases u.judge_cases e.code with ⟨hafter, hjudged⟩ | ⟨overall, draw, hjudged⟩
  · rcases u.disconnect_eq with ⟨pool, hended⟩
    rw [hjudged, hended]
    refine .overflow (Or.inl ?_)
    rw [← hterms.requestTimeout]
    exact hafter
  · let f : Failure := ⟨e.code, subscribePath, (s.subscription.failures + 1).toNat, overall⟩
    rw [hsame.failures, hterms.policy] at hjudged
    have hcounted : Counted s e (u.judge e.code).2.disconnect := by
      rw [hjudged]
      refine ⟨(uncounted_disconnect _).failures, overall, ?_⟩
      rw [(uncounted_disconnect _).consulted, Client.consulted_record, hsame.consulted]
      rfl
    have hverdict : (u.judge e.code).1 =
        some (s.client.policy.decide draw u.client.now f) := by
      rw [hjudged]
    rw [hverdict]
    cases hv : s.client.policy.decide draw u.client.now f with
    | giveUp => exact .givenUp hcounted ⟨draw, _, f, rfl, rfl, rfl, hv⟩
    | retryAfter delay =>
      exact .retried hcounted (stream_disconnect _) ⟨draw, _, delay, f, rfl, rfl, rfl, hv⟩
    | overflow => exact .overflow (Or.inr ⟨draw, _, f, hv⟩)

/-- Every round does what it shows. -/
theorem Passed.marked {s t : Subscriber} {fuel : Nat} {round : Round}
    (h : s.Passed fuel round t) : Marked s fuel (s.mark? fuel) round t := by
  have hreads : ∀ {stream : ActiveStream} {first : Signal} {rest : Feed} {arrival : Arrival},
      s.subscription.stream = some stream → Subscriber.linkClosed s.client stream = false →
      stream.feed = first :: rest → first.arrival.within s.client.receiveLimit = arrival →
      s.mark? fuel = some arrival.mark := by
    intro stream first rest arrival hstream hlink hfeed harrival
    simp [mark?, hstream, hlink, hfeed, harrival]
  cases h with
  | shutDown hstream hclosed =>
    have hmark : s.mark? fuel = none := by simp [mark?, hstream, hclosed]
    rw [hmark]
    exact .nothing ⟨rfl, rfl⟩ nofun nofun nofun nofun
  | opened hstream hopen hopening =>
    have hmark : s.mark? fuel = some .opened := by
      simp [mark?, hstream, hopen, hopening, Outcome.mark?]
    rw [hmark]
    exact .opened hstream rfl (s.uncounted_opening fuel _)
  | @refused e t hstream hopen hopening ht =>
    have hmark : s.mark? fuel = some (.failed e) := by
      simp [mark?, hstream, hopen, hopening, Outcome.mark?]
    have hnone : (t.judge e.code).2.subscription.stream = none := by
      rw [stream_judge, ht]
      exact hstream
    rw [hmark, ← disconnect_of_none hnone, ht]
    exact marked_judge fuel (s.uncounted_opening fuel _) (s.sameTerms_opening fuel _) e
  | waiting hstream hopen hopening =>
    exact absurd hopening (Client.openStream_ne_waiting _ _ _)
  | unfinished hstream hopen hopening =>
    have hmark : s.mark? fuel = none := by
      simp [mark?, hstream, hopen, hopening, Outcome.mark?]
    rw [hmark]
    exact .nothing (s.uncounted_opening fuel _) nofun nofun (fun _ => hopening) nofun
  | overflow hstream hopen hopening =>
    have hmark : s.mark? fuel = none := by
      simp [mark?, hstream, hopen, hopening, Outcome.mark?]
    rw [hmark]
    exact .nothing (s.uncounted_opening fuel _) nofun nofun nofun fun _ => ⟨hopening, rfl⟩
  | linkClosed hstream hlink =>
    have hmark : s.mark? fuel = none := by simp [mark?, hstream, hlink]
    rw [hmark]
    exact .nothing s.uncounted_disconnect nofun nofun nofun nofun
  | @silent stream hstream hlink hfeed =>
    have hmark : s.mark? fuel = none := by simp [mark?, hstream, hlink, hfeed]
    rw [hmark]
    exact .nothing ⟨rfl, rfl⟩ nofun (fun _ => ⟨stream, hstream, hfeed⟩) nofun nofun
  | event hstream hlink hfeed harrival hevent =>
    rw [hreads hstream hlink hfeed harrival]
    simp only [Arrival.mark, hevent]
    exact .delivered rfl rfl
  | fault hstream hlink hfeed harrival hevent =>
    rw [hreads hstream hlink hfeed harrival]
    simp only [Arrival.mark, hevent]
    exact .malformed ⟨rfl, rfl⟩
  | ended hstream hlink hfeed harrival =>
    rw [hreads hstream hlink hfeed harrival]
    refine .ended (hstream ▸ rfl) (stream_disconnect _) (Uncounted.disconnect ⟨rfl, ?_⟩)
    rw [Client.consulted_record]
    exact List.append_nil _
  | @broken stream first rest status _ hstream hlink hfeed harrival ht =>
    rw [hreads hstream hlink hfeed harrival]
    have htaken : Uncounted s (s.taking stream first rest) := ⟨rfl, rfl⟩
    subst ht
    exact marked_judge fuel htaken ⟨rfl, rfl⟩ (.service status)

theorem Passed.sameTerms {s t : Subscriber} {fuel : Nat} {round : Round}
    (h : s.Passed fuel round t) : SameTerms s t := by
  have hopening := s.sameTerms_opening fuel
  cases h with
  | shutDown _ _ => exact ⟨rfl, rfl⟩
  | opened _ _ _ => exact hopening _
  | refused _ _ _ ht =>
    subst ht
    exact (hopening _).trans (sameTerms_judge _ _)
  | waiting _ _ _ => exact hopening _
  | unfinished _ _ _ => exact hopening _
  | overflow _ _ _ => exact hopening _
  | linkClosed _ _ => exact s.sameTerms_disconnect
  | silent _ _ _ => exact ⟨rfl, rfl⟩
  | event _ _ _ _ _ => exact ⟨rfl, rfl⟩
  | fault _ _ _ _ _ => exact ⟨rfl, rfl⟩
  | @ended stream first rest _ _ _ _ =>
    have htaken : SameTerms s
        { client := (s.taking stream first rest).client.record [.ended s.subscription.request]
          subscription := (s.taking stream first rest).subscription } := ⟨rfl, rfl⟩
    exact htaken.trans (sameTerms_disconnect _)
  | @broken stream first rest _ _ _ _ _ _ ht =>
    subst ht
    have htaken : SameTerms s (s.taking stream first rest) := ⟨rfl, rfl⟩
    exact (htaken.trans (sameTerms_judge _ _)).trans (sameTerms_disconnect _)

theorem history_disconnect (s : Subscriber) :
    s.disconnect.client.history = s.client.history := by
  rcases s.disconnect_eq with ⟨pool, hended⟩
  rw [hended]

/-- Acts of a kind other than questions and clean ends are those of the opening, if there is one. -/
theorem Passed.acts {s t : Subscriber} {fuel : Nat} {round : Round} (h : s.Passed fuel round t)
    (kind : Act → Bool) (hasked : ∀ f, kind (.asked f) = false)
    (hended : ∀ r, kind (.ended r) = false) :
    t.client.history.filter kind = s.client.history.filter kind ∨
      (s.subscription.stream = none ∧
        t.client.history.filter kind = (s.opening fuel).next.history.filter kind) := by
  have hjudge : ∀ (u : Subscriber) code,
      (u.judge code).2.client.history.filter kind = u.client.history.filter kind := by
    intro u code
    rcases u.judge_cases code with ⟨-, hjudged⟩ | ⟨overall, draw, hjudged⟩
    · rw [hjudged]
    · simp [hjudged, Client.record, hasked]
  cases h with
  | shutDown _ _ => exact Or.inl rfl
  | opened hstream _ _ => exact Or.inr ⟨hstream, rfl⟩
  | refused hstream _ _ ht =>
    subst ht
    exact Or.inr ⟨hstream, hjudge _ _⟩
  | waiting hstream _ _ => exact Or.inr ⟨hstream, rfl⟩
  | unfinished hstream _ _ => exact Or.inr ⟨hstream, rfl⟩
  | overflow hstream _ _ => exact Or.inr ⟨hstream, rfl⟩
  | linkClosed _ _ => exact Or.inl (congrArg _ s.history_disconnect)
  | silent _ _ _ => exact Or.inl rfl
  | event _ _ _ _ _ => exact Or.inl rfl
  | fault _ _ _ _ _ => exact Or.inl rfl
  | ended _ _ _ _ =>
    rw [history_disconnect]
    simp [Client.record, hended, taking]
  | broken _ _ _ _ ht =>
    subst ht
    rw [history_disconnect, hjudge]
    exact Or.inl rfl

/-! ### Slots and requests -/

/-- The slots that a subscriber asks for in a round: one if it has no stream. -/
def unopened (s : Subscriber) : Nat := if s.subscription.stream.isNone then 1 else 0

theorem unopened_of_none {s : Subscriber} (h : s.subscription.stream = none) : s.unopened = 1 := by
  simp [unopened, h]

theorem unopened_of_isSome {s : Subscriber} (h : s.subscription.stream.isSome) :
    s.unopened = 0 := by
  simp [unopened, Option.isSome_iff_ne_none.1 h]

/-- In the opening of a stream a slot is asked for once, and with counted retries there is at most
one request more than there are retries. -/
theorem history_opening (s : Subscriber) (fuel : Nat) :
    ∃ requests, (s.opening fuel).next.history =
        s.client.history ++ .opened s.subscription.request ::
          List.replicate requests
            (.subscribed s.subscription.request.toMessage s.client.metadata) ∧
      ∀ rule retries, s.client.policy = .counted rule retries → requests ≤ retries + 1 := by
  rcases s.rested.openStream_next s.subscription.request fuel with
    ⟨pool, now, requests, hrequests, hnext⟩
  refine ⟨requests, congrArg Client.history hnext, ?_⟩
  intro rule retries hpolicy
  have hasking : (s.rested.asking s.subscription.request).policy = .counted rule retries := hpolicy
  have hlength := Client.length_establishing_le hasking s.subscription.request fuel
  rcases hrequests with rfl | rfl
  · exact Nat.zero_le _
  · exact hlength

/-- A round asks for a slot only to open a stream. -/
theorem openCount_round_le (s : Subscriber) (fuel : Nat) :
    (s.round fuel).next.client.openCount ≤ s.client.openCount + s.unopened := by
  rcases s.history_opening fuel with ⟨requests, hhistory, -⟩
  rw [Client.openCount_eq, Client.openCount_eq]
  rcases (s.round_passed fuel).acts Act.isOpening (fun _ => rfl) (fun _ => rfl) with
    hsame | ⟨hstream, hopening⟩
  · rw [hsame]
    exact Nat.le_add_right _ _
  · rw [hopening, hhistory, unopened_of_none hstream]
    simp [List.filter_cons, Act.isOpening]

/-- With counted retries a round sends at most one request more than there are retries, and only to
open a stream. -/
theorem subscribeCount_round_le {s : Subscriber} {rule : Eligibility} {retries : Nat}
    (hpolicy : s.client.policy = .counted rule retries) (fuel : Nat) :
    (s.round fuel).next.client.subscribeCount ≤
      s.client.subscribeCount + (retries + 1) * s.unopened := by
  rcases s.history_opening fuel with ⟨requests, hhistory, hrequests⟩
  rw [Client.subscribeCount_eq, Client.subscribeCount_eq]
  rcases (s.round_passed fuel).acts Act.isRequest (fun _ => rfl) (fun _ => rfl) with
    hsame | ⟨hstream, hopening⟩
  · rw [hsame]
    exact Nat.le_add_right _ _
  · rw [hopening, hhistory, unopened_of_none hstream]
    simpa [List.filter_cons, List.filter_replicate, Act.isRequest]
      using hrequests rule retries hpolicy

theorem round_marked (s : Subscriber) (fuel : Nat) :
    Marked s fuel (s.mark? fuel) (s.round fuel).answer (s.round fuel).next :=
  (s.round_passed fuel).marked

/-! ## Waiting for an event -/

/-- What holds of waiting that is cut off at once, and of waiting that ends with its first round,
and is handed on from the second round to the first, holds of all waiting for an event. -/
theorem event_induction
    {P : Nat → Subscriber → List Mark → Outcome Event → Subscriber → Prop}
    (hcut : ∀ s, P 0 s [] .unfinished s)
    (hdone : ∀ fuel s answer, (s.round fuel).answer = .done answer →
      P (fuel + 1) s (s.mark? fuel).toList answer (s.round fuel).next)
    (hagain : ∀ fuel s marks answer t, (s.round fuel).answer = .again →
      P fuel (s.round fuel).next marks answer t →
      P (fuel + 1) s ((s.mark? fuel).toList ++ marks) answer t)
    (fuel : Nat) (s : Subscriber) :
    P fuel s (s.marks fuel) (event fuel s).answer (event fuel s).next := by
  induction fuel generalizing s with
  | zero => exact hcut s
  | succ fuel ih =>
    simp only [marks, event]
    cases hround : (s.round fuel).answer with
    | done answer => simpa using hdone fuel s answer hround
    | again => exact hagain fuel s _ _ _ hround (ih _)

end Subscriber

/-! ### The account of failures -/

/-- What the strategy is shown of failures that come after a number of others. -/
def TopicError.shown (count : UInt32) : List TopicError → List (StatusCode × String × Nat)
  | [] => []
  | e :: errors => (e.code, subscribePath, (count + 1).toNat) :: shown (count + 1) errors

/-- A word with room for it goes up by a number. -/
theorem UInt32.toNat_add_ofNat {n : UInt32} {k : Nat} (h : n.toNat + k < UInt32.size) :
    (n + UInt32.ofNat k).toNat = n.toNat + k := by
  rw [UInt32.toNat_add, UInt32.toNat_ofNat_of_lt' (Nat.lt_of_le_of_lt (Nat.le_add_left _ _) h)]
  exact Nat.mod_eq_of_lt h

theorem UInt32.toNat_succ {n : UInt32} (h : n.toNat + 1 < UInt32.size) :
    (n + 1).toNat = n.toNat + 1 :=
  UInt32.toNat_add_ofNat h

/-- As long as the count does not run over, the numbers follow on one another. -/
theorem TopicError.shown_eq {count : UInt32} {errors : List TopicError}
    (h : count.toNat + errors.length < UInt32.size) :
    shown count errors =
      (errors.zipIdx (count.toNat + 1)).map fun e => (e.1.code, subscribePath, e.2) := by
  induction errors generalizing count with
  | nil => rfl
  | cons e errors ih =>
    have hmore : count.toNat + 1 + errors.length < UInt32.size := by
      rw [List.length_cons] at h
      omega
    have hnext : (count + 1).toNat = count.toNat + 1 := UInt32.toNat_succ (by omega)
    rw [shown, ih (hnext.symm ▸ hmore), hnext]
    rfl

namespace Subscriber

/-- The account of failures of a subscriber that waits for an event. -/
structure Ledger (s : Subscriber) (marks : List Mark) (answer : Outcome Event) (t : Subscriber) :
    Prop where
  /-- Failures are counted up to the next event, and nothing else changes the count. -/
  tallied : ∀ n, s.subscription.failures = UInt32.ofNat n →
    t.subscription.failures = UInt32.ofNat (marks.foldl Mark.tally n)
  /-- The strategy is asked about each failure once, with its number. -/
  asked : ∃ asked, t.client.consulted = s.client.consulted ++ asked ∧
    asked.map (fun f => (f.code, f.method, f.attempt)) =
      TopicError.shown s.subscription.failures (Mark.failures marks)
  /-- A failure that is not retried is the last one, and it is the answer. -/
  judged : ∀ before e after, Mark.failures marks = before ++ e :: after →
    s.client.policy.MayRetry e.code
        (s.subscription.failures + UInt32.ofNat (before.length + 1)).toNat ∨
      (after = [] ∧ answer = .error e)

/-- The account without a failure. -/
theorem Ledger.of_no_failure {s t : Subscriber} {marks : List Mark} {answer : Outcome Event}
    (htallied : ∀ n, s.subscription.failures = UInt32.ofNat n →
      t.subscription.failures = UInt32.ofNat (marks.foldl Mark.tally n))
    (hconsulted : t.client.consulted = s.client.consulted) (hnone : Mark.failures marks = []) :
    Ledger s marks answer t where
  tallied := htallied
  asked := ⟨[], hconsulted.trans (List.append_nil _).symm, by rw [hnone]; rfl⟩
  judged := by
    intro before e after hsplit
    rw [hnone] at hsplit
    cases before <;> cases hsplit

theorem Marked.ledger {s t : Subscriber} {fuel : Nat} {mark : Option Mark} {answer : Outcome Event}
    (h : Marked s fuel mark (.done answer) t) (hanswer : answer ≠ .overflow) :
    Ledger s mark.toList answer t := by
  cases h with
  | malformed hsame =>
    exact .of_no_failure (fun _ => hsame.failures.trans) hsame.consulted rfl
  | delivered hfailures hconsulted => exact .of_no_failure (fun _ _ => hfailures) hconsulted rfl
  | @givenUp _ e hcounted _ =>
    rcases hcounted.consulted with ⟨overall, hconsulted⟩
    refine ⟨fun n => hcounted.tally, ⟨_, hconsulted, rfl⟩, ?_⟩
    intro before other after hsplit
    -- the failure is the only one
    have hsplit : [e] = before ++ other :: after := hsplit
    cases before with
    | nil =>
      cases hsplit
      exact Or.inr ⟨rfl, rfl⟩
    | cons first before => simp at hsplit
  | overflow _ => exact absurd rfl hanswer
  | nothing hsame _ _ _ _ =>
    exact .of_no_failure (fun _ => hsame.failures.trans) hsame.consulted rfl

/-- The account of a round that leads to another one, and of all the rounds after it. -/
theorem Marked.ledger_again {s t u : Subscriber} {fuel : Nat} {mark : Option Mark}
    {marks : List Mark} {answer : Outcome Event}
    (h : Marked s fuel mark .again t) (hterms : SameTerms s t) (hrest : Ledger t marks answer u) :
    Ledger s (mark.toList ++ marks) answer u := by
  have htallied := hrest.tallied
  rcases hrest.asked with ⟨asked, hasked, hshown⟩
  have hjudged := hrest.judged
  rw [hterms.policy] at hjudged
  have hsame : Uncounted s t → Ledger s marks answer u := by
    intro hsame
    rw [hsame.failures] at htallied hshown hjudged
    rw [hsame.consulted] at hasked
    exact ⟨htallied, ⟨asked, hasked, hshown⟩, hjudged⟩
  cases h with
  | opened _ _ huncounted =>
    have hledger := hsame huncounted
    exact ⟨hledger.tallied, hledger.asked, hledger.judged⟩
  | ended _ _ huncounted =>
    have hledger := hsame huncounted
    exact ⟨hledger.tallied, hledger.asked, hledger.judged⟩
  | @retried _ e hcounted _ hmay =>
    rcases hcounted.consulted with ⟨overall, hconsulted⟩
    rw [hcounted.failures] at hshown hjudged
    let f : Failure := ⟨e.code, subscribePath, (s.subscription.failures + 1).toNat, overall⟩
    refine ⟨fun _ hn => htallied _ (hcounted.tally hn), ⟨f :: asked, ?_, ?_⟩, ?_⟩
    · rw [hasked, hconsulted, List.append_assoc]
      rfl
    · exact congrArg ((e.code, subscribePath, (s.subscription.failures + 1).toNat) :: ·) hshown
    · intro before other after hsplit
      have hsplit : e :: Mark.failures marks = before ++ other :: after := hsplit
      cases before with
      | nil =>
        cases hsplit
        exact Or.inl hmay
      | cons first before =>
        have hlater := hjudged before other after (List.cons.inj hsplit).2
        have hplace : s.subscription.failures + 1 + UInt32.ofNat (before.length + 1) =
            s.subscription.failures + UInt32.ofNat ((first :: before).length + 1) := by
          rw [List.length_cons, Nat.add_comm (before.length + 1) 1, UInt32.ofNat_add 1,
            ← UInt32.add_assoc]
          rfl
        rwa [hplace] at hlater

/-- Waiting for an event keeps the account of failures, unless an instant cannot be represented. -/
theorem ledger_event (fuel : Nat) (s : Subscriber) (h : (event fuel s).answer ≠ .overflow) :
    Ledger s (s.marks fuel) (event fuel s).answer (event fuel s).next := by
  refine event_induction
    (P := fun _ s marks answer t => answer ≠ .overflow → Ledger s marks answer t) ?_ ?_ ?_ fuel s h
  · intro s _
    exact .of_no_failure (fun _ hn => hn) rfl rfl
  · intro fuel s answer hround hanswer
    exact (hround ▸ s.round_marked fuel).ledger hanswer
  · intro fuel s marks answer t hround hrest hanswer
    exact (hround ▸ s.round_marked fuel).ledger_again (s.round_passed fuel).sameTerms
      (hrest hanswer)

/-! ### The bound -/

/-- The retries that a subscriber has left before the next event. -/
def retriesLeft (retries : Nat) (s : Subscriber) : Nat :=
  retries - s.subscription.failures.toNat

/-- The count of failures can go up by one. -/
def Countable (s : Subscriber) : Prop := s.subscription.failures.toNat + 1 < UInt32.size

/-- With counted retries, the failures of a call do not fill a count that can go up by one. -/
theorem Ledger.countable {s t : Subscriber} {marks : List Mark} {answer : Outcome Event}
    {rule : Eligibility} {retries : Nat} (h : Ledger s marks answer t)
    (hpolicy : s.client.policy = .counted rule retries) (hretries : retries + 1 < UInt32.size)
    (hcount : s.Countable) {before after : List TopicError} {e : TopicError}
    (hsplit : Mark.failures marks = before ++ e :: after) :
    s.subscription.failures.toNat + before.length + 1 < UInt32.size := by
  induction before using List.reverseRecOn generalizing e after with
  | nil => exact hcount
  | append_singleton before last ih =>
    -- the failure before this one was retried, so its number was small
    have hearlier : Mark.failures marks = before ++ last :: (e :: after) := by
      rw [hsplit, List.append_assoc]
      rfl
    rcases h.judged before last (e :: after) hearlier with hmay | ⟨hnone, -⟩
    · rw [hpolicy] at hmay
      have hfew := (Policy.mayRetry_counted hmay).2
      rw [UInt32.toNat_add_ofNat (ih hearlier)] at hfew
      rw [List.length_append, List.length_singleton]
      omega
    · cases hnone

/-- With counted retries, a round that leads to another one does not fill the count. -/
theorem Marked.countable {s t : Subscriber} {fuel : Nat} {mark : Option Mark} {rule : Eligibility}
    {retries : Nat} (h : Marked s fuel mark .again t)
    (hpolicy : s.client.policy = .counted rule retries) (hretries : retries + 1 < UInt32.size)
    (hcount : s.Countable) : t.Countable := by
  unfold Countable
  cases h with
  | opened _ _ hsame =>
    rw [hsame.failures]
    exact hcount
  | ended _ _ hsame =>
    rw [hsame.failures]
    exact hcount
  | retried hcounted _ hmay =>
    rw [hpolicy] at hmay
    rw [hcounted.failures]
    exact Nat.lt_of_le_of_lt (Nat.succ_le_succ (Policy.mayRetry_counted hmay).2) hretries

/-- Each round that leads to another one uses up a retry, or opens the stream that is missing; only
a clean end makes up for it. -/
theorem Marked.lowers {s t : Subscriber} {fuel : Nat} {mark : Option Mark} {rule : Eligibility}
    {retries : Nat} (h : Marked s fuel mark .again t)
    (hpolicy : s.client.policy = .counted rule retries) (hcount : s.Countable) :
    s.unopened + retriesLeft retries t + t.unopened ≤
        retriesLeft retries s + s.unopened + mark.toList.count .ended ∧
      2 * retriesLeft retries t + t.unopened + 1 ≤
        2 * retriesLeft retries s + s.unopened + 2 * mark.toList.count .ended := by
  cases h with
  | opened hbefore hafter hsame =>
    rw [unopened_of_none hbefore, unopened_of_isSome hafter]
    simp only [retriesLeft, hsame.failures]
    omega
  | ended hbefore hafter hsame =>
    rw [unopened_of_isSome hbefore, unopened_of_none hafter]
    simp only [retriesLeft, hsame.failures, Option.toList_some, List.count_singleton_self]
    omega
  | retried hcounted hafter hmay =>
    rw [hpolicy] at hmay
    have hleft := (Policy.mayRetry_counted hmay).2
    rw [UInt32.toNat_succ hcount] at hleft
    rw [unopened_of_none hafter]
    simp only [retriesLeft, hcounted.failures, UInt32.toNat_succ hcount]
    omega

/-- Waiting for an event is over: there is an answer, or the stream is silent for ever, or the
deadline of a call cannot be represented. -/
inductive Over (timeout : Duration) : Outcome Event → Subscriber → Prop where
  | delivered (e : Event) (t : Subscriber) : Over timeout (.ok e) t
  | failed (e : TopicError) (t : Subscriber) : Over timeout (.error e) t
  | silent {stream : ActiveStream} {t : Subscriber}
      (hstream : t.subscription.stream = some stream) (hfeed : stream.feed = []) :
      Over timeout .waiting t
  | overflow {t : Subscriber} (hafter : Instant.after? t.client.now timeout = none) :
      Over timeout .overflow t

/-- A round that leads to no other one is the end, if it might make as many attempts as there can
be. -/
theorem Marked.ends {s t : Subscriber} {fuel : Nat} {mark : Option Mark} {answer : Outcome Event}
    {rule : Eligibility} {retries : Nat} (h : Marked s fuel mark (.done answer) t)
    (hpolicy : s.client.policy = .counted rule retries) (hfuel : retries < fuel) :
    Over s.client.requestTimeout answer t := by
  have hopening := Client.openStream_counted (c := s.rested) hpolicy s.subscription.request hfuel
  cases h with
  | malformed _ => exact .failed _ t
  | delivered _ _ => exact .delivered _ t
  | givenUp _ _ => exact .failed _ t
  | overflow hoverflow =>
    rcases hoverflow with hafter | ⟨draw, now, f, hverdict⟩
    · exact .overflow hafter
    · -- retries that are counted are made without delay
      rw [hpolicy] at hverdict
      simp only [Policy.decide] at hverdict
      split at hverdict <;> cases hverdict
  | nothing _ hok hwaiting hunfinished hoverflow =>
    cases answer with
    | ok e => exact absurd rfl (hok e)
    | error e => exact .failed e t
    | waiting =>
      rcases hwaiting rfl with ⟨stream, hstream, hfeed⟩
      exact .silent hstream hfeed
    | unfinished => exact absurd (hunfinished rfl) hopening.1
    | overflow =>
      rcases hoverflow rfl with ⟨hanswer, hclient⟩
      exact .overflow (hclient ▸ hopening.2 hanswer)

/-- The bounds for a subscriber that waits for an event, with counted retries. -/
structure Bounded (retries fuel : Nat) (s : Subscriber) (marks : List Mark)
    (answer : Outcome Event) (t : Subscriber) : Prop where
  slots : t.client.openCount ≤
    s.client.openCount + (retriesLeft retries s + s.unopened + marks.count .ended)
  ended : 2 * retriesLeft retries s + s.unopened + 2 * marks.count .ended + retries + 1 < fuel →
    Over s.client.requestTimeout answer t

/-- Waiting for an event keeps the bounds. -/
theorem bounded_event {rule : Eligibility} {retries : Nat} (fuel : Nat) (s : Subscriber)
    (hpolicy : s.client.policy = .counted rule retries) (hretries : retries + 1 < UInt32.size)
    (hcount : s.Countable) :
    Bounded retries fuel s (s.marks fuel) (event fuel s).answer (event fuel s).next := by
  refine event_induction (P := fun fuel s marks answer t =>
    s.client.policy = .counted rule retries → s.Countable → Bounded retries fuel s marks answer t)
    ?_ ?_ ?_ fuel s hpolicy hcount
  · intro s _ _
    exact ⟨Nat.le_add_right _ _, fun hfuel => absurd hfuel (Nat.not_lt_zero _)⟩
  · intro fuel s answer hround hpolicy _
    have hslots := s.openCount_round_le fuel
    refine ⟨by omega, ?_⟩
    intro hfuel
    exact (hround ▸ s.round_marked fuel).ends hpolicy (by omega)
  · intro fuel s marks answer t hround hrest hpolicy hcount
    have hterms := (s.round_passed fuel).sameTerms
    have hmarked : Marked s fuel (s.mark? fuel) .again (s.round fuel).next :=
      hround ▸ s.round_marked fuel
    rcases hrest (hterms.policy.trans hpolicy)
      (hmarked.countable hpolicy hretries hcount) with ⟨hslots, hover⟩
    have hfirst := s.openCount_round_le fuel
    rcases hmarked.lowers hpolicy hcount with ⟨hlower, hshorter⟩
    constructor
    · rw [List.count_append]
      omega
    · intro hfuel
      rw [List.count_append] at hfuel
      exact hterms.requestTimeout ▸ hover (by omega)

theorem Reaches.sameTerms {s t : Subscriber} (h : s.Reaches t) : SameTerms s t := by
  induction h with
  | start => exact ⟨rfl, rfl⟩
  | round _ fuel ih => exact ih.trans (round_passed _ fuel).sameTerms

/-! ## The life of a subscription -/

/-- What the service has done in the life of a subscription up to now: in all calls that waited for
an event since it was opened.  In between, anything may become of the client. -/
inductive Lives : List Mark → Subscriber → Prop where
  | opened {c : Client} {r : SubscribeRequest} {fuel : Nat} {x : Subscription}
      (h : (c.subscribe r fuel).answer = .ok x) : Lives [] ⟨(c.subscribe r fuel).next, x⟩
  | waited {marks : List Mark} {s : Subscriber} (h : Lives marks s) (fuel : Nat)
      (hanswer : (event fuel s).answer ≠ .overflow) :
      Lives (marks ++ s.marks fuel) (event fuel s).next
  | meanwhile {marks : List Mark} {s : Subscriber} (h : Lives marks s) (c : Client) :
      Lives marks { s with client := c }

/-- The failures that a subscription counts are those since its last event. -/
theorem Lives.failures {marks : List Mark} {s : Subscriber} (h : Lives marks s) :
    s.subscription.failures = UInt32.ofNat (Mark.sinceDelivery marks) := by
  induction h with
  | opened hanswer =>
    rcases Client.subscribe_ok hanswer with ⟨stream, -, rfl⟩
    rfl
  | waited _ fuel hanswer ih =>
    rw [(ledger_event fuel _ hanswer).tallied _ ih, Mark.sinceDelivery_append]
  | meanwhile _ c ih => exact ih

/-- With counted retries no failure is final but one that is not eligible or one too many. -/
theorem Marked.hopeless {s t : Subscriber} {fuel : Nat} {mark : Option Mark} {round : Round}
    {rule : Eligibility} {retries : Nat} (h : Marked s fuel mark round t)
    (hpolicy : s.client.policy = .counted rule retries) {e other : TopicError}
    (hmark : mark = some (.failed e)) (hround : round = .done (.error other)) :
    rule.accepts e.code subscribePath = false ∨
      retries < (s.subscription.failures + 1).toNat := by
  cases h with
  | givenUp _ hmay =>
    cases hmark
    rw [hpolicy] at hmay
    exact Policy.mayGiveUp_counted hmay
  | retried _ _ _ => cases hround
  | overflow _ => cases hround
  | _ => cases hmark

end Subscriber

/-- Take any subscription of any client, whatever its service does, and a call that waits for an
event.  The number of failures that the subscription counts is that of the failures since its last
event: of the streams that broke and those that could not be opened, and of nothing else, over all
calls since it was opened, as far as a word can hold it.  The strategy is asked about each failure
in the call once, and gets to see the numbers that follow on that one.

With three counted retries, and a count that is not full when the call begins, it does not run over
in the call.  The call asks for at most four slots more than there are streams that the service ends
cleanly; each time at most four requests are sent; and if it might go on for so many rounds, it is
over, with an answer unless a stream is silent for ever or a deadline cannot be represented.  The
first failure that is not eligible, or is one too many, is the answer, as it is; and no other
failure ends a call.  Without retries the first failure is the answer. -/
theorem resuming_bounded (s : Subscriber) (fuel : Nat) :
    let waited := Subscriber.event fuel s
    let marks := s.marks fuel
    let failed := Mark.failures marks
    let count := s.subscription.failures.toNat
    (∀ before, Subscriber.Lives before s → count = Mark.sinceDelivery before % UInt32.size) ∧
    (waited.answer ≠ .overflow →
      ∃ asked, waited.next.client.consulted = s.client.consulted ++ asked ∧
        asked.map (fun f => (f.code, f.method, f.attempt)) =
          TopicError.shown s.subscription.failures failed) ∧
    (s.client.policy = PolicyKind.counted.policy → count + 1 < UInt32.size →
      waited.next.client.openCount ≤ s.client.openCount + (4 + marks.count .ended) ∧
      (2 * marks.count .ended + 11 < fuel →
        Subscriber.Over s.client.requestTimeout waited.answer waited.next) ∧
      (waited.answer ≠ .overflow →
        TopicError.shown s.subscription.failures failed =
          (failed.zipIdx (count + 1)).map fun e => (e.1.code, subscribePath, e.2)) ∧
      (waited.answer ≠ .overflow → ∀ before e after, failed = before ++ e :: after →
        Eligibility.standard.accepts e.code subscribePath = false ∨
            3 < count + before.length + 1 →
          after = [] ∧ waited.answer = .error e) ∧
      ∀ u, s.Reaches u → ∀ n,
        (u.round n).next.client.subscribeCount ≤ u.client.subscribeCount + 4 * u.unopened ∧
        ∀ e other, u.mark? n = some (.failed e) → (u.round n).answer = .done (.error other) →
          Eligibility.standard.accepts e.code subscribePath = false ∨
            3 < (u.subscription.failures + 1).toNat) ∧
    (s.client.policy = PolicyKind.never.policy → waited.answer ≠ .overflow →
      ∀ e after, failed = e :: after → after = [] ∧ waited.answer = .error e) := by
  intro waited marks failed count
  refine ⟨?_, ?_, ?_, ?_⟩
  · intro before hlife
    exact (congrArg UInt32.toNat hlife.failures).trans UInt32.toNat_ofNat'
  · intro hanswer
    exact (Subscriber.ledger_event fuel s hanswer).asked
  · intro hpolicy hcount
    have hcounted : s.client.policy = .counted .standard 3 := hpolicy
    have hbounded : Subscriber.Bounded 3 fuel s marks waited.answer waited.next :=
      Subscriber.bounded_event fuel s hcounted (by decide) hcount
    have hleft : Subscriber.retriesLeft 3 s ≤ 3 := Nat.sub_le _ _
    have hunopened : s.unopened ≤ 1 := by
      unfold Subscriber.unopened
      split <;> decide
    have hfits : waited.answer ≠ .overflow → ∀ before e after, failed = before ++ e :: after →
        count + before.length + 1 < UInt32.size := by
      intro hanswer before e after hsplit
      exact (Subscriber.ledger_event fuel s hanswer).countable hcounted (by decide) hcount hsplit
    refine ⟨?_, fun hfuel => hbounded.ended (by omega), ?_, ?_, ?_⟩
    · have hslots := hbounded.slots
      omega
    · intro hanswer
      refine TopicError.shown_eq ?_
      -- the number of the last failure is that of all of them
      rcases List.eq_nil_or_concat failed with hnone | ⟨before, last, hlast⟩
      · rw [hnone]
        exact Nat.lt_of_succ_lt hcount
      · rw [List.concat_eq_append] at hlast
        rw [hlast, List.length_append]
        exact hfits hanswer before last [] hlast
    · intro hanswer before e after hsplit hlast
      rcases (Subscriber.ledger_event fuel s hanswer).judged before e after hsplit with hmay | hend
      · rw [hcounted] at hmay
        rcases Policy.mayRetry_counted hmay with ⟨heligible, hfew⟩
        rw [UInt32.toNat_add_ofNat (hfits hanswer before e after hsplit)] at hfew
        rcases hlast with hineligible | hmany
        · cases heligible.symm.trans hineligible
        · exact absurd hfew (Nat.not_le_of_lt hmany)
      · exact hend
    · intro u hu n
      have hreached := hu.sameTerms.policy.trans hcounted
      exact ⟨Subscriber.subscribeCount_round_le hreached n,
        fun _ _ hmark hround => (u.round_marked n).hopeless hreached hmark hround⟩
  · intro hpolicy hanswer e after hsplit
    rcases (Subscriber.ledger_event fuel s hanswer).judged [] e after hsplit with hmay | hend
    · rw [hpolicy] at hmay
      exact absurd hmay (Policy.not_mayRetry_never _ _)
    · exact hend

/-- The failure of a service that is about to come back. -/
def briefly : Status where
  code := .unavailable
  message := "restarting"

/-- A service that ends its first stream, refuses every second request, and breaks all other
streams. -/
def crumblingService : Service where
  publish _ _ := { takes := some .zero, result := .ok () }
  subscribe k _ :=
    if k % 2 = 1 then { takes := some .zero, result := .error briefly }
    else
      { takes := some .zero
        result := .ok
          [⟨0, .message { kind := some .heartbeat }⟩,
            ⟨0, if k = 0 then .ended else .failed briefly⟩] }

/-- A client of that service. -/
def crumblingClient (policy : Policy) : Client where
  identity := ⟨[], []⟩
  policy := policy
  requestTimeout := .ofMillis 1000
  reconnectDelay := .ofMillis 100
  receiveLimit := 4096
  pool :=
    { slotsPerLink := 1, maxLinks := 1, canGrow := false
      links := [{ id := 0, connection := some 0 }], dialer := .faultless }
  calls := { links := [], dialer := .faultless }
  service := crumblingService
  clock := .coarse
  chance := fun _ _ => .least

/-- A new subscription of that client. -/
def crumblingSubscriber (policy : Policy) : Subscriber where
  client := ((crumblingClient policy).subscribe liveRequest 4).next
  subscription :=
    { cache := "cache", topic := "topic", position := {}, stream := some ⟨0, [⟨0, .ended⟩]⟩ }

/-- What the service does while the subscription waits for its first event. -/
def crumblingMarks : List Mark :=
  [.ended, .opened, .failed (.service briefly), .opened, .failed (.service briefly), .opened,
    .failed (.service briefly), .opened, .failed (.service briefly)]

/-- The subscription after so many rounds. -/
def crumblingRounds : Nat → Subscriber
  | 0 => crumblingSubscriber PolicyKind.counted.policy
  | n + 1 => ((crumblingRounds n).round 4).next

theorem reaches_crumblingRounds (n : Nat) :
    (crumblingSubscriber PolicyKind.counted.policy).Reaches (crumblingRounds n) := by
  induction n with
  | zero => exact .start
  | succ n ih => exact ih.round 4

theorem resuming_bounded_crumbling :
    let s := crumblingSubscriber PolicyKind.counted.policy
    let t := crumblingSubscriber PolicyKind.never.policy
    let waited := Subscriber.event 14 s
    s.marks 14 = crumblingMarks ∧ Subscriber.Lives [] s ∧
    s.subscription.failures.toNat + 1 < UInt32.size ∧
    waited.next.client.openCount ≤ s.client.openCount + (4 + crumblingMarks.count .ended) ∧
    Subscriber.Over s.client.requestTimeout waited.answer waited.next ∧
    waited.answer = .error (.service briefly) ∧
    (∃ asked, waited.next.client.consulted = s.client.consulted ++ asked ∧
      asked.map (fun f => (f.code, f.method, f.attempt)) =
        [(.unavailable, subscribePath, 1), (.unavailable, subscribePath, 2),
          (.unavailable, subscribePath, 3), (.unavailable, subscribePath, 4)]) ∧
    (crumblingRounds 2).client.subscribeCount ≤ (crumblingRounds 1).client.subscribeCount + 4 ∧
    (Eligibility.standard.accepts .unavailable subscribePath = false ∨
      3 < ((crumblingRounds 8).subscription.failures + 1).toNat) ∧
    t.marks 14 = [.ended, .failed (.service briefly)] ∧
    (Subscriber.event 14 t).answer = .error (.service briefly) := by
  intro s t waited
  have hmarks : s.marks 14 = crumblingMarks := by decide +kernel
  have honly : t.marks 14 = [.ended, .failed (.service briefly)] := by decide +kernel
  have hlife : Subscriber.Lives [] s :=
    .opened (c := crumblingClient PolicyKind.counted.policy) (r := liveRequest) (h := rfl)
  have hanswer : waited.answer ≠ .overflow := by decide +kernel
  have hnever : (Subscriber.event 14 t).answer ≠ .overflow := by decide +kernel
  have hcountable : s.subscription.failures.toNat + 1 < UInt32.size := by decide
  rcases resuming_bounded s 14 with ⟨hcount, hasked, hcounted, -⟩
  rcases hcounted rfl hcountable with ⟨hslots, hover, hnumbers, hlast, hrounds⟩
  rcases resuming_bounded t 14 with ⟨-, -, -, hfirst⟩
  rw [hmarks] at hslots hover hnumbers hlast hasked
  rw [honly] at hfirst
  rw [hcount [] hlife] at hnumbers hlast
  rcases hasked hanswer with ⟨asked, hconsulted, hshown⟩
  -- the fourth failure in a row is one too many
  have hfourth := hlast hanswer [.service briefly, .service briefly, .service briefly]
    (.service briefly) [] rfl (Or.inr (by decide))
  have hopening := (hrounds _ (reaches_crumblingRounds 1) 4).1
  have hfinal := (hrounds _ (reaches_crumblingRounds 8) 4).2 (.service briefly) (.service briefly)
    (by decide +kernel) (by decide +kernel)
  have hsingle := hfirst rfl hnever (.service briefly) [] rfl
  exact ⟨hmarks, hlife, hcountable, hslots, hover (by decide), hfourth.2,
    ⟨asked, hconsulted, hshown.trans (hnumbers hanswer)⟩, hopening, hfinal, honly, hsingle.2⟩

/-! ### A full count -/

/-- Without a stream, a failure that is not eligible is counted, and it is the answer. -/
theorem event_of_ineligible {s : Subscriber} {fuel : Nat} {e : TopicError} {rule : Eligibility}
    {retries : Nat} (hstream : s.subscription.stream = none) (hopen : s.client.closed = false)
    (hopening : (s.opening fuel).answer = .error e)
    (hafter : Instant.after? (s.opening fuel).next.now s.client.requestTimeout ≠ none)
    (hpolicy : s.client.policy = .counted rule retries)
    (hineligible : rule.accepts e.code subscribePath = false) :
    (Subscriber.event (fuel + 1) s).answer = .error e ∧
      s.marks (fuel + 1) = [.failed e] ∧
      (Subscriber.event (fuel + 1) s).next.subscription =
        { s.subscription with failures := s.subscription.failures + 1 } := by
  let t : Subscriber := { s with client := (s.opening fuel).next }
  have hterms := s.sameTerms_opening fuel s.subscription
  have hround : (s.round fuel).answer = .done (.error e) ∧ (s.round fuel).next.subscription =
      { s.subscription with failures := s.subscription.failures + 1 } := by
    have hfold : s.rested.openStream s.subscription.request fuel = s.opening fuel := rfl
    simp only [Subscriber.round, hstream, hopen, Subscriber.reopen, hfold, hopening]
    rcases t.judge_cases e.code with ⟨hnone, -⟩ | ⟨overall, draw, hjudged⟩
    · rw [hterms.requestTimeout] at hnone
      exact absurd hnone hafter
    · have hgives : t.client.policy = .counted rule retries := hterms.policy.trans hpolicy
      rw [hgives] at hjudged
      simp only [Policy.decide, hineligible, Bool.false_and] at hjudged
      simp [t, hjudged, hstream]
  have hmark : s.mark? fuel = some (.failed e) := by
    simp [Subscriber.mark?, hstream, hopen, hopening, Outcome.mark?]
  simp [Subscriber.event, Subscriber.marks, hround, hmark]

/-- A failure that is not eligible. -/
def forbidden : Status where
  code := .permissionDenied
  message := "forbidden"

/-- A client whose service refuses every request for a stream. -/
def refusedClient (status : Status) : Client :=
  { crumblingClient PolicyKind.counted.policy with
    service :=
      { publish := fun _ _ => { takes := some .zero, result := .ok () }
        subscribe := fun _ _ => { takes := some .zero, result := .error status } } }

/-- A subscription of that client, which has lost its stream and has counted some failures. -/
def refusedSubscriber (status : Status) (failures : UInt32) : Subscriber where
  client := refusedClient status
  subscription := { cache := "cache", topic := "topic", position := {}, failures, stream := none }

theorem event_refusedSubscriber (failures : UInt32) :
    let s := refusedSubscriber forbidden failures
    (Subscriber.event 2 s).answer = .error (.service forbidden) ∧
      s.marks 2 = [.failed (.service forbidden)] ∧
      (Subscriber.event 2 s).next.subscription =
        (refusedSubscriber forbidden (failures + 1)).subscription := by
  intro s
  -- what was counted before makes no difference to the opening of a stream
  have hopening : s.opening 1 = (refusedSubscriber forbidden 0).opening 1 := rfl
  have hrefused : (s.opening 1).answer = .error (.service forbidden) := by
    rw [hopening]
    decide +kernel
  have hafter : Instant.after? (s.opening 1).next.now (.ofMillis 1000) ≠ none := by
    rw [hopening]
    decide +kernel
  have hineligible : Eligibility.standard.accepts (TopicError.service forbidden).code
      subscribePath = false := by decide
  have hcounted : s.client.policy = .counted .standard 3 := rfl
  have hstream : s.subscription.stream = none := rfl
  have hopen : s.client.closed = false := rfl
  rcases event_of_ineligible hstream hopen hrefused hafter hcounted hineligible with
    ⟨hanswer, hmarks, hnext⟩
  refine ⟨hanswer, hmarks, ?_⟩
  rw [hnext]
  rfl

/-- A subscription can come to count any number of failures. -/
theorem lives_refusedSubscriber (n : Nat) :
    ∃ marks, Subscriber.Lives marks (refusedSubscriber forbidden (UInt32.ofNat (n + 1))) ∧
      Mark.sinceDelivery marks = n + 1 := by
  induction n with
  | zero =>
    -- the first stream is ended by the service, and no other one can be opened
    let s : Subscriber := { crumblingSubscriber PolicyKind.counted.policy with
      client := refusedClient forbidden }
    have hopened : Subscriber.Lives [] (crumblingSubscriber PolicyKind.counted.policy) :=
      .opened (c := crumblingClient PolicyKind.counted.policy) (r := liveRequest) (h := rfl)
    have hlives : Subscriber.Lives [] s := hopened.meanwhile _
    have hmarks : s.marks 3 = [.ended, .failed (.service forbidden)] := by decide +kernel
    have hnext : (Subscriber.event 3 s).next.subscription =
        (refusedSubscriber forbidden 1).subscription := by decide +kernel
    have hmore := (hlives.waited 3 (by decide +kernel)).meanwhile (refusedClient forbidden)
    rw [hmarks, hnext] at hmore
    exact ⟨_, hmore, rfl⟩
  | succ n ih =>
    rcases ih with ⟨marks, hlives, hcount⟩
    rcases event_refusedSubscriber (UInt32.ofNat (n + 1)) with ⟨hanswer, hmarks, hnext⟩
    have hended : (Subscriber.event 2
        (refusedSubscriber forbidden (UInt32.ofNat (n + 1)))).answer ≠ .overflow := by
      rw [hanswer]
      exact nofun
    have hmore := (hlives.waited 2 hended).meanwhile (refusedClient forbidden)
    have hsucc : UInt32.ofNat (n + 1) + 1 = UInt32.ofNat (n + 1 + 1) :=
      (UInt32.ofNat_add (n + 1) 1).symm
    rw [hmarks, hnext, hsucc] at hmore
    refine ⟨_, hmore, ?_⟩
    rw [Mark.sinceDelivery_concat, hcount]
    rfl

/-- A subscription that has counted as many failures in a row as a word can hold starts again at
zero.  So a call asks for five slots although no stream is ended cleanly, the strategy is asked
about the first failure with the number zero, and accepts it. -/
theorem resuming_runs_over :
    let s := refusedSubscriber briefly 4294967295
    let waited := Subscriber.event 10 s
    (∃ marks, Subscriber.Lives marks s ∧ Mark.sinceDelivery marks = 4294967295) ∧
    s.client.policy = PolicyKind.counted.policy ∧
    s.marks 10 = List.replicate 5 (.failed (.service briefly)) ∧
    (s.marks 10).count .ended = 0 ∧ waited.next.client.openCount = s.client.openCount + 5 ∧
    s.client.consulted = [] ∧
    waited.next.client.consulted.map (fun f => (f.code, f.attempt)) =
      [(.unavailable, 0), (.unavailable, 1), (.unavailable, 2), (.unavailable, 3),
        (.unavailable, 4)] ∧
    waited.answer = .error (.service briefly) := by
  intro s waited
  rcases lives_refusedSubscriber 4294967294 with ⟨marks, hlives, hcount⟩
  exact ⟨⟨marks, hlives.meanwhile (refusedClient briefly), hcount⟩, rfl, by decide +kernel,
    by decide +kernel, by decide +kernel, rfl, by decide +kernel, by decide +kernel⟩

end PubSub
