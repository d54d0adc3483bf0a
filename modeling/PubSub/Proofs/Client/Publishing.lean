import PubSub.Client.Client
import PubSub.Proofs.Retry.Course

/-!
# Publishing

How often a publish sends its request.

A value that is sent again may be delivered twice, so no policy accepts a failed publish as
eligible.  One policy also repeats attempts that ran out of time, and it tells these by their code
alone.  The first attempt of a publish has all the time there is, so it cannot run out of time
early; but a service may say at once that it did.

* `PolicyKind.decide_publish`: the only failures of a publish after which a policy goes on.
* `publish_sent_once`: a publish sends its request at most once, unless that policy is in force and
  the service claims a time-out before the time limit.
* `publish_sent_twice`: in that case it sends it twice.
-/

namespace PubSub

variable {α : Type}

/-! ## Policies -/

/-- No failure of a publish is eligible. -/
theorem Eligibility.standard_publish (code : StatusCode) :
    Eligibility.standard.accepts code publishPath = false := by
  have hpath : repeatableMethods.contains publishPath = false := by decide
  simp only [standard, hpath, Bool.and_false]

/-- After a failed publish a policy goes on only if it is the one that repeats attempts which ran
out of time, the failure looks like that, and there is time left. -/
theorem PolicyKind.decide_publish {kind : PolicyKind} {draw : Draw} {now : Instant} {f : Failure}
    {delay : Duration} (hmethod : f.method = publishPath)
    (h : kind.policy.decide draw now f = .retryAfter delay) :
    kind = .windowed ∧ f.code = .deadlineExceeded ∧ now < f.overall := by
  have hnever : Eligibility.standard.accepts f.code f.method = false :=
    hmethod ▸ Eligibility.standard_publish f.code
  cases kind with
  | never => cases h
  | counted => simp [policy, Policy.decide, hnever] at h
  | backoff => simp [policy, Policy.decide, hnever] at h
  | windowed =>
    simp only [policy, Policy.decide, hnever, Bool.or_false] at h
    split at h
    · cases h
    · rename_i hahead
      split at h
      · rename_i hcode
        exact ⟨rfl, by simpa using hcode, Int.not_le.1 hahead⟩
      · cases h

/-! ## Attempts -/

namespace Work

/-- Work that says that its time is out before a limit has passed. -/
def TimesOutEarly (w : Work α) (limit : Duration) : Prop :=
  ∃ d status, w.takes = some d ∧ d.nanos < limit.nanos ∧ w.result = .error status ∧
    status.code = .deadlineExceeded

/-- An attempt that ends before an instant no later than that at which its timer rings ends by
itself. -/
theorem finished_of_endsAt_lt {w : Work α} {now ring t : Int} (h : w.endsAt now ring < t)
    (hring : t ≤ ring) :
    ∃ d, w.takes = some d ∧ now + d.nanos < t ∧ w.outcome now ring = w.result := by
  have hcut : ¬ max now ring < t := by omega
  unfold endsAt at h
  split at h
  · exact absurd h hcut
  · rename_i d htakes
    split at h
    · rename_i hfinishes
      exact ⟨d, htakes, h, by rw [outcome, if_pos hfinishes]⟩
    · exact absurd h hcut

end Work

namespace Caller

/-- A call after whose first attempt the strategy does not ask for another makes at most one. -/
theorem length_attempts_le_one (c : Caller) {method : String} {overall : Instant}
    {work : Attempt → Work α} {a : Attempt} {now : Instant} (fuel : Nat)
    (h : ∀ u, ¬ c.GoesOn method overall (c.tryOnce method overall work a now) u) :
    (c.attempts method overall work fuel a now).tries.length ≤ 1 := by
  cases fuel with
  | zero => exact Nat.zero_le _
  | succ fuel =>
    rcases c.tries_succ method overall work fuel a now with hlast | ⟨b, start, hgo, _⟩
    · exact Nat.le_of_eq (congrArg List.length hlast)
    · exact absurd hgo (h _)

/-- A call that returned has made an attempt. -/
theorem tries_ne_nil {c : Caller} {method : String} {deadline : Option Instant}
    {work : Attempt → Work α} {now : Instant} {fuel : Nat} {result : Except Status α}
    (h : (c.call method deadline work now fuel).ending = .returned result) :
    (c.call method deadline work now fuel).tries ≠ [] := by
  unfold call at h ⊢
  split at h
  · cases h
  · rename_i overall _
    have hhead := c.head?_attempts method overall work fuel ⟨1, overall⟩ now h
    intro hnone
    rw [hnone] at hhead
    cases hhead

end Caller

/-! ## Publishes -/

namespace Client

/-- The calls that a publish makes if it gets that far. -/
def publishing (c : Client) (m : PublishMessage) (fuel : Nat) : Run Unit :=
  c.caller.call publishPath none (fun a => c.service.publish (c.publishCount + a.number - 1) m)
    c.now fuel

/-- Some of the requests of a client's calls, and nothing else. -/
def Sent (c : Client) (m : PublishMessage) (sent : List Act) : Prop :=
  ∀ act ∈ sent, ∃ timeout, act = .published m c.metadata timeout

theorem publishCount_append {c t : Client} {m : PublishMessage} {sent : List Act}
    (hsent : c.Sent m sent) (h : t.history = c.history ++ sent) :
    t.publishCount = c.publishCount + sent.length := by
  unfold publishCount
  rw [h, List.filter_append, List.length_append]
  refine Nat.add_left_cancel_iff.2 (congrArg List.length (List.filter_eq_self.2 ?_))
  intro act hact
  rcases hsent act hact with ⟨timeout, rfl⟩
  rfl

/-- The requests for the attempts of a publish. -/
def requests (c : Client) (m : PublishMessage) (fuel : Nat) : List Act :=
  (c.publishing m fuel).tries.map fun t =>
    .published m c.metadata
      ((Duration.ofNanos? (t.attempt.remaining t.started)).bind Duration.callTimeout?)

theorem sent_requests (c : Client) (m : PublishMessage) (fuel : Nat) :
    c.Sent m (c.requests m fuel) := by
  intro act hact
  rcases List.mem_map.1 hact with ⟨t, -, rfl⟩
  exact ⟨_, rfl⟩

/-- A publish sends a request for each attempt of its calls, or it fails and sends none at all.  It
succeeds if its calls do. -/
theorem publish_requests (c : Client) (cache topic : String) (value : Value) (fuel : Nat) :
    ((c.publish cache topic value fuel).answer ≠ .ok () ∧
        (c.publish cache topic value fuel).next.history = c.history) ∨
      ((c.publish cache topic value fuel).next.history =
          c.history ++ c.requests (publishMessage cache topic value) fuel ∧
        ((c.publish cache topic value fuel).answer = .ok () →
          (c.publishing (publishMessage cache topic value) fuel).ending = .returned (.ok ()))) := by
  unfold publish
  split
  · exact Or.inl ⟨nofun, rfl⟩
  · simp only
    split
    · exact Or.inl ⟨nofun, rfl⟩
    · split
      · exact Or.inl ⟨nofun, rfl⟩
      · -- what comes of the calls makes no difference to what was sent
        refine Or.inr ?_
        split
        · exact ⟨rfl, nofun⟩
        · exact ⟨rfl, nofun⟩
        · rename_i hending
          exact ⟨rfl, fun _ => hending⟩
        · exact ⟨rfl, nofun⟩

/-- A publish sends a request for each attempt of its calls, or none at all, and does nothing else
that its history would tell. -/
theorem history_publish (c : Client) (cache topic : String) (value : Value) (fuel : Nat) :
    ∃ sent, (c.publish cache topic value fuel).next.history = c.history ++ sent ∧
      c.Sent (publishMessage cache topic value) sent ∧
      sent.length ≤ (c.publishing (publishMessage cache topic value) fuel).tries.length := by
  rcases c.publish_requests cache topic value fuel with ⟨-, hhistory⟩ | ⟨hhistory, -⟩
  · refine ⟨[], ?_, ?_, Nat.zero_le _⟩
    · rw [hhistory, List.append_nil]
    · intro act hact
      cases hact
  · exact ⟨_, hhistory, c.sent_requests _ fuel, Nat.le_of_eq (List.length_map _)⟩

/-- A publish that succeeded has sent a request, one for each attempt of its calls. -/
theorem sent_of_publish_ok {c : Client} {cache topic : String} {value : Value} {fuel : Nat}
    (h : (c.publish cache topic value fuel).answer = .ok ()) :
    ∃ sent, (c.publish cache topic value fuel).next.history = c.history ++ sent ∧
      c.Sent (publishMessage cache topic value) sent ∧ sent ≠ [] ∧
      sent.length = (c.publishing (publishMessage cache topic value) fuel).tries.length := by
  rcases c.publish_requests cache topic value fuel with ⟨hfailed, -⟩ | ⟨hhistory, hreturned⟩
  · exact absurd h hfailed
  · refine ⟨_, hhistory, c.sent_requests _ fuel, ?_, List.length_map _⟩
    have htries := Caller.tries_ne_nil (hreturned h)
    intro hnone
    exact htries (List.map_eq_nil_iff.1 hnone)

/-- The first attempt of a publish is the only one, unless it says too early that its time is out
under the policy that tries again then. -/
theorem length_publishing_le_one {c : Client} {kind : PolicyKind} (hpolicy : c.policy = kind.policy)
    {m : PublishMessage}
    (hservice : kind = .windowed →
      ¬ (c.service.publish c.publishCount m).TimesOutEarly c.requestTimeout) (fuel : Nat) :
    (c.publishing m fuel).tries.length ≤ 1 := by
  unfold publishing Caller.call
  split
  · exact Nat.zero_le _
  · rename_i overall hoverall
    apply Caller.length_attempts_le_one
    intro u hgo
    rcases hgo.answered with ⟨strategy, failure, delay, hstrategy, hfailure, hdelay, -⟩
    obtain rfl : c.strategy = strategy := Option.some.inj hstrategy
    -- the failure is that of the first attempt, about which the policy was asked when it ended
    unfold Caller.failure? at hfailure
    split at hfailure
    · cases hfailure
    · rename_i status hstatus
      cases hfailure
      have hdecide : c.policy.decide _ _ _ = .retryAfter delay := hdelay
      rw [hpolicy] at hdecide
      rcases PolicyKind.decide_publish rfl hdecide with ⟨hkind, hcode, hahead⟩
      simp only [Caller.tryOnce, caller] at hstatus hahead
      rcases Work.finished_of_endsAt_lt hahead (c.clock.le_ring overall) with
        ⟨d, htakes, hearly, hresult⟩
      -- the overall deadline is the time limit after the start, so the attempt was over before that
      have hlimit : overall = c.now + c.requestTimeout.nanos :=
        Caller.overallDeadline_eq c.caller hoverall
      refine hservice hkind ⟨d, status, htakes, ?_, hresult ▸ hstatus, hcode⟩
      rw [hlimit] at hearly
      exact Int.ofNat_lt.1 (Int.add_lt_add_iff_left _ |>.1 hearly)

end Client

/-- Whatever the service does, and under every policy that settings can name, a publish sends its
request at most once and nothing else, unless the policy is the one that repeats attempts which ran
out of time, and the service answers the first request, before the time limit, that its time is
out. -/
theorem publish_sent_once {c : Client} {kind : PolicyKind} (hpolicy : c.policy = kind.policy)
    (cache topic : String) (value : Value) (fuel : Nat)
    (hservice : kind = .windowed →
      ¬ (c.service.publish c.publishCount (publishMessage cache topic value)).TimesOutEarly
        c.requestTimeout) :
    ∃ sent, (c.publish cache topic value fuel).next.history = c.history ++ sent ∧
      c.Sent (publishMessage cache topic value) sent ∧ sent.length ≤ 1 ∧
      (c.publish cache topic value fuel).next.publishCount = c.publishCount + sent.length := by
  rcases c.history_publish cache topic value fuel with ⟨sent, hhistory, hsent, hlength⟩
  exact ⟨sent, hhistory, hsent,
    Nat.le_trans hlength (Client.length_publishing_le_one hpolicy hservice fuel),
    Client.publishCount_append hsent hhistory⟩

/-- A service that says of the first publish, after some time, that its time is out, and accepts
every other. -/
def hastyService (takes : Duration) : Service where
  publish k _ :=
    if k = 0 then
      { takes := some takes, result := .error { code := .deadlineExceeded, message := "late" } }
    else { takes := some .zero, result := .ok () }
  subscribe _ _ := { takes := none, result := .ok [] }

/-- A client that repeats attempts which ran out of time. -/
def insistentClient (service : Service) : Client where
  identity := ⟨[], []⟩
  policy := PolicyKind.windowed.policy
  requestTimeout := usualTimeout
  reconnectDelay := .ofMillis 500
  receiveLimit := 4096
  pool :=
    { slotsPerLink := 1, maxLinks := 1, canGrow := false
      links := [{ id := 0, connection := some 0 }], dialer := .faultless }
  calls := { links := [{ id := 0, connection := some 1 }], dialer := .faultless }
  service
  clock := .coarse
  chance _ _ := .least

/-- A time-out at the very end of the time limit is not answered by another request. -/
theorem publish_sent_once_at_limit :
    let c := insistentClient (hastyService usualTimeout)
    c.policy = PolicyKind.windowed.policy ∧
    ¬ (c.service.publish c.publishCount (publishMessage "cache" "topic" (.text "hi"))).TimesOutEarly
      c.requestTimeout ∧
    (c.publish "cache" "topic" (.text "hi") 4).next.publishCount = 1 ∧
    ∃ sent : List Act, sent.length ≤ 1 ∧
      (c.publish "cache" "topic" (.text "hi") 4).next.history = sent := by
  intro c
  have hservice : ¬ (c.service.publish c.publishCount
      (publishMessage "cache" "topic" (.text "hi"))).TimesOutEarly c.requestTimeout := by
    rintro ⟨d, status, htakes, hearly, -⟩
    obtain rfl : usualTimeout = d := Option.some.inj htakes
    exact Nat.lt_irrefl _ hearly
  have hpolicy : c.policy = PolicyKind.windowed.policy := rfl
  rcases publish_sent_once hpolicy "cache" "topic" (.text "hi") 4 (fun _ => hservice) with
    ⟨sent, hhistory, -, hlength, -⟩
  exact ⟨hpolicy, hservice, by decide, sent, hlength, hhistory⟩

/-- A service that answers at once that the time of a publish is out is sent the value again. -/
theorem publish_sent_twice :
    let c := insistentClient (hastyService .zero)
    let r := c.publish "cache" "topic" (.text "hi") 4
    c.policy = PolicyKind.windowed.policy ∧ r.answer = .ok () ∧
    c.publishCount = 0 ∧ r.next.publishCount = 2 :=
  ⟨rfl, rfl, rfl, by decide⟩

end PubSub
