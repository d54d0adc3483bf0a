import PubSub.Client.Session
import PubSub.Proofs.Retry.Course

/-!
# Rounds

The ways in which a round of waiting for an event can go, and what the operations of a client leave
alone.

* `Client.openStream_ok`: a stream that could be opened is what the service answered, without the
  heartbeat at its beginning.
* `Subscriber.Passed`: every way in which a round can go, with all that is known about it.
* `Subscriber.round_passed`: there is no other way.
-/

namespace PubSub

/-- A message that a reader sees arrived as it is. -/
theorem Arrival.eq_of_within {limit : Nat} {a : Arrival} {m : DeliveryMessage}
    (h : a.within limit = .message m) : a = .message m := by
  cases a with
  | message found =>
    rw [within] at h
    split at h
    · exact h
    · cases h
  | ended => cases h
  | failed s => cases h

namespace Client

/-! ## Opening streams -/

variable {c : Client} {stream : ActiveStream}

/-- Waiting for the heartbeat changes the pool and the time of the client, and nothing else. -/
theorem awaitHeartbeat_next (c : Client) (link : Nat) (deadline : Instant) (feed : Feed) :
    ∃ pool now, (c.awaitHeartbeat link deadline feed).next = { c with pool, now } := by
  unfold awaitHeartbeat
  cases feed with
  | nil => exact ⟨_, _, rfl⟩
  | cons signal rest =>
    simp only
    split
    · exact ⟨_, _, rfl⟩
    · split <;> exact ⟨_, _, rfl⟩

theorem service_awaitHeartbeat (c : Client) (link : Nat) (deadline : Instant) (feed : Feed) :
    (c.awaitHeartbeat link deadline feed).next.service = c.service := by
  rcases c.awaitHeartbeat_next link deadline feed with ⟨_, _, hnext⟩
  rw [hnext]

theorem service_openOn (c : Client) (link : Nat) (r : SubscribeRequest) (fuel : Nat) :
    (c.openOn link r fuel).next.service = c.service := by
  unfold openOn
  split
  · rfl
  · simp only
    split
    · rfl
    · rfl
    · rfl
    · exact service_awaitHeartbeat _ _ _ _

theorem service_openStream (c : Client) (r : SubscribeRequest) (fuel : Nat) :
    (c.openStream r fuel).next.service = c.service := by
  unfold openStream
  simp only
  split
  · rfl
  · split
    · exact service_openOn _ _ _ _
    · rfl

/-- A publish changes the rotation, the time and the history of the client, and nothing else. -/
theorem publish_next (c : Client) (cache topic : String) (value : Value) (fuel : Nat) :
    ∃ calls now history,
      (c.publish cache topic value fuel).next = { c with calls, now, history } := by
  unfold publish
  split
  · exact ⟨_, _, _, rfl⟩
  · simp only
    split
    · exact ⟨_, _, _, rfl⟩
    · split
      · exact ⟨_, _, _, rfl⟩
      · split <;> exact ⟨_, _, _, rfl⟩

theorem service_publish (c : Client) (cache topic : String) (value : Value) (fuel : Nat) :
    (c.publish cache topic value fuel).next.service = c.service := by
  rcases c.publish_next cache topic value fuel with ⟨_, _, _, hnext⟩
  rw [hnext]

theorem service_subscribe (c : Client) (r : SubscribeRequest) (fuel : Nat) :
    (c.subscribe r fuel).next.service = c.service := by
  unfold subscribe
  split
  · rfl
  · exact c.service_openStream r fuel

/-- A stream whose beginning was accepted began with a heartbeat. -/
theorem awaitHeartbeat_ok {link : Nat} {deadline : Instant} {feed : Feed}
    (h : (c.awaitHeartbeat link deadline feed).answer = .ok stream) :
    ∃ ready, feed = ⟨ready, .message { kind := some .heartbeat }⟩ :: stream.feed := by
  unfold awaitHeartbeat at h
  cases feed with
  | nil => cases h
  | cons first rest =>
    simp only at h
    split at h
    · cases h
    · split at h
      · rename_i hfirst
        cases h
        refine ⟨first.ready, ?_⟩
        rw [← Arrival.eq_of_within hfirst]
      all_goals cases h

/-- A stream on a link is what the service answered to one of the requests for it. -/
theorem openOn_ok {link : Nat} {r : SubscribeRequest} {fuel : Nat}
    (h : (c.openOn link r fuel).answer = .ok stream) :
    ∃ k ready, (c.service.subscribe k r.toMessage).result =
      .ok (⟨ready, .message { kind := some .heartbeat }⟩ :: stream.feed) := by
  unfold openOn at h
  split at h
  · cases h
  · simp only at h
    split at h
    · cases h
    · cases h
    · cases h
    · rename_i feed hreturned
      -- of all attempts, the one that succeeded got this feed from the service
      rcases awaitHeartbeat_ok h with ⟨ready, rfl⟩
      rcases Caller.result_of_call_ok _ hreturned with ⟨a, ha⟩
      exact ⟨_, ready, ha⟩

/-- A stream that could be opened is what the service answered, without its first heartbeat. -/
theorem openStream_ok {r : SubscribeRequest} {fuel : Nat}
    (h : (c.openStream r fuel).answer = .ok stream) :
    ∃ k ready, (c.service.subscribe k r.toMessage).result =
      .ok (⟨ready, .message { kind := some .heartbeat }⟩ :: stream.feed) := by
  unfold openStream at h
  simp only at h
  split at h
  · cases h
  · split at h
    · have hopening := openOn_ok h
      exact hopening
    · cases h

/-- A new subscription starts at the position that was asked for. -/
theorem subscribe_ok {r : SubscribeRequest} {fuel : Nat} {x : Subscription}
    (h : (c.subscribe r fuel).answer = .ok x) :
    ∃ stream, (c.openStream r fuel).answer = .ok stream ∧
      x =
        { cache := r.cache, topic := r.topic, position := r.position, stream := some stream } := by
  unfold subscribe at h
  split at h
  · cases h
  · simp only at h
    cases hopening : (c.openStream r fuel).answer with
    | ok stream =>
      rw [hopening] at h
      cases h
      exact ⟨stream, rfl, rfl⟩
    | _ =>
      rw [hopening] at h
      cases h

end Client

namespace Subscriber

/-! ## Rounds -/

/-- What happens when a subscriber without a stream opens one. -/
def opening (s : Subscriber) (fuel : Nat) : Reply Client (Outcome ActiveStream) :=
  s.rested.openStream s.subscription.request fuel

/-- The subscriber after something that arrived was taken off its stream. -/
def taking (s : Subscriber) (stream : ActiveStream) (first : Signal) (rest : Feed) :
    Subscriber where
  client := { s.client with now := max s.client.now first.ready }
  subscription := { s.subscription with stream := some { stream with feed := rest } }

/-- What a round leads to after an error about which the strategy was asked. -/
def roundAfter (e : TopicError) : Option Verdict → Round
  | some (.retryAfter _) => .again
  | some .giveUp => .done (.error e)
  | _ => .done .overflow

/-- The ways in which a round can go: what it leads to and the subscriber after it. -/
inductive Passed (s : Subscriber) (fuel : Nat) : Round → Subscriber → Prop where
  | shutDown (hstream : s.subscription.stream = none) (hclosed : s.client.closed = true) :
      Passed s fuel (.done (.error (.transport .shuttingDown))) s
  | opened {stream : ActiveStream} (hstream : s.subscription.stream = none)
      (hopen : s.client.closed = false) (hopening : (s.opening fuel).answer = .ok stream) :
      Passed s fuel .again
        { client := (s.opening fuel).next
          subscription := { s.subscription with stream := some stream } }
  | refused {e : TopicError} {t : Subscriber} (hstream : s.subscription.stream = none)
      (hopen : s.client.closed = false) (hopening : (s.opening fuel).answer = .error e)
      (ht : t = { s with client := (s.opening fuel).next }) :
      Passed s fuel (roundAfter e (t.judge e.code).1) (t.judge e.code).2
  | waiting (hstream : s.subscription.stream = none) (hopen : s.client.closed = false)
      (hopening : (s.opening fuel).answer = .waiting) :
      Passed s fuel (.done .waiting) { s with client := (s.opening fuel).next }
  | unfinished (hstream : s.subscription.stream = none) (hopen : s.client.closed = false)
      (hopening : (s.opening fuel).answer = .unfinished) :
      Passed s fuel (.done .unfinished) { s with client := (s.opening fuel).next }
  | overflow (hstream : s.subscription.stream = none) (hopen : s.client.closed = false)
      (hopening : (s.opening fuel).answer = .overflow) :
      Passed s fuel (.done .overflow) { s with client := (s.opening fuel).next }
  | linkClosed {stream : ActiveStream} (hstream : s.subscription.stream = some stream)
      (hlink : linkClosed s.client stream = true) :
      Passed s fuel (.done (.error (.transport .shuttingDown))) s.disconnect
  | silent {stream : ActiveStream} (hstream : s.subscription.stream = some stream)
      (hlink : Subscriber.linkClosed s.client stream = false) (hfeed : stream.feed = []) :
      Passed s fuel (.done .waiting) s
  | event {stream : ActiveStream} {first : Signal} {rest : Feed} {m : DeliveryMessage} {e : Event}
      (hstream : s.subscription.stream = some stream)
      (hlink : Subscriber.linkClosed s.client stream = false) (hfeed : stream.feed = first :: rest)
      (harrival : first.arrival.within s.client.receiveLimit = .message m)
      (hevent : Event.ofMessage m = .ok e) :
      Passed s fuel (.done (.ok e))
        { client := (s.taking stream first rest).client
          subscription := (s.taking stream first rest).subscription.deliver e }
  | fault {stream : ActiveStream} {first : Signal} {rest : Feed} {m : DeliveryMessage}
      {fault : MessageFault} (hstream : s.subscription.stream = some stream)
      (hlink : Subscriber.linkClosed s.client stream = false) (hfeed : stream.feed = first :: rest)
      (harrival : first.arrival.within s.client.receiveLimit = .message m)
      (hevent : Event.ofMessage m = .error fault) :
      Passed s fuel (.done (.error (.unexpected (.fault fault)))) (s.taking stream first rest)
  | ended {stream : ActiveStream} {first : Signal} {rest : Feed}
      (hstream : s.subscription.stream = some stream)
      (hlink : Subscriber.linkClosed s.client stream = false) (hfeed : stream.feed = first :: rest)
      (harrival : first.arrival.within s.client.receiveLimit = .ended) :
      Passed s fuel .again
        (disconnect
          { client := (s.taking stream first rest).client.record [.ended s.subscription.request]
            subscription := (s.taking stream first rest).subscription })
  | broken {stream : ActiveStream} {first : Signal} {rest : Feed} {status : Status}
      {t : Subscriber} (hstream : s.subscription.stream = some stream)
      (hlink : Subscriber.linkClosed s.client stream = false) (hfeed : stream.feed = first :: rest)
      (harrival : first.arrival.within s.client.receiveLimit = .failed status)
      (ht : t = s.taking stream first rest) :
      Passed s fuel (roundAfter (.service status) (t.judge status.code).1)
        (t.judge status.code).2.disconnect

theorem reopen_passed {s : Subscriber} (fuel : Nat) (hstream : s.subscription.stream = none)
    (hopen : s.client.closed = false) :
    s.Passed fuel (s.reopen fuel).answer (s.reopen fuel).next := by
  have hfold : s.rested.openStream s.subscription.request fuel = s.opening fuel := rfl
  simp only [reopen, hfold]
  cases hopening : (s.opening fuel).answer with
  | ok stream => exact .opened hstream hopen hopening
  | error e =>
    have hrefused := Passed.refused hstream hopen hopening rfl
    simp only
    -- the verdict decides whether there is another round
    cases hjudged : judge { s with client := (s.opening fuel).next } e.code with
    | mk verdict t =>
      rw [hjudged] at hrefused
      rcases verdict with - | - | delay | - <;> exact hrefused
  | waiting => exact .waiting hstream hopen hopening
  | unfinished => exact .unfinished hstream hopen hopening
  | overflow => exact .overflow hstream hopen hopening

theorem read_passed {s : Subscriber} {stream : ActiveStream} (fuel : Nat)
    (hstream : s.subscription.stream = some stream)
    (hlink : Subscriber.linkClosed s.client stream = false) :
    s.Passed fuel (s.read stream).answer (s.read stream).next := by
  unfold read
  cases hfeed : stream.feed with
  | nil => exact .silent hstream hlink hfeed
  | cons first rest =>
    simp only
    cases harrival : first.arrival.within s.client.receiveLimit with
    | message m =>
      simp only
      cases hevent : Event.ofMessage m with
      | ok e => exact .event hstream hlink hfeed harrival hevent
      | error fault => exact .fault hstream hlink hfeed harrival hevent
    | ended => exact .ended hstream hlink hfeed harrival
    | failed status =>
      have hbroken : s.Passed fuel _ _ := .broken hstream hlink hfeed harrival rfl
      have hfold : Subscriber.mk { s.client with now := max s.client.now first.ready }
          { s.subscription with stream := some { stream with feed := rest } } =
            s.taking stream first rest := rfl
      simp only [hfold]
      cases hjudged : judge (s.taking stream first rest) status.code with
      | mk verdict t =>
        rw [hjudged] at hbroken
        rcases verdict with - | - | delay | - <;> exact hbroken

/-- Every round goes in one of the ways described. -/
theorem round_passed (s : Subscriber) (fuel : Nat) :
    s.Passed fuel (s.round fuel).answer (s.round fuel).next := by
  unfold round
  split
  · rename_i hstream
    split
    · rename_i hclosed
      exact .shutDown hstream hclosed
    · rename_i hclosed
      have hopen : s.client.closed = false := by simpa using hclosed
      exact reopen_passed fuel hstream hopen
  · rename_i stream hstream
    split
    · rename_i hlink
      exact .linkClosed hstream hlink
    · rename_i hlink
      have hlinkOpen : Subscriber.linkClosed s.client stream = false := by simpa using hlink
      exact read_passed fuel hstream hlinkOpen

/-! ## What stays as it is -/

/-- Subscribers to one topic of one service. -/
structure Akin (s t : Subscriber) : Prop where
  service : t.client.service = s.client.service
  cache : t.subscription.cache = s.subscription.cache
  topic : t.subscription.topic = s.subscription.topic

namespace Akin

theorem refl (s : Subscriber) : Akin s s := ⟨rfl, rfl, rfl⟩

theorem trans {s t u : Subscriber} (hst : Akin s t) (htu : Akin t u) : Akin s u where
  service := htu.service.trans hst.service
  cache := htu.cache.trans hst.cache
  topic := htu.topic.trans hst.topic

end Akin

theorem service_opening (s : Subscriber) (fuel : Nat) :
    (s.opening fuel).next.service = s.client.service :=
  Client.service_openStream _ _ _

theorem akin_judge (s : Subscriber) (code : StatusCode) : Akin s (s.judge code).2 := by
  unfold judge
  simp only
  split <;> exact ⟨rfl, rfl, rfl⟩

theorem position_judge (s : Subscriber) (code : StatusCode) :
    (s.judge code).2.subscription.position = s.subscription.position := by
  unfold judge
  simp only
  split <;> rfl

theorem stream_judge (s : Subscriber) (code : StatusCode) :
    (s.judge code).2.subscription.stream = s.subscription.stream := by
  unfold judge
  simp only
  split <;> rfl

theorem akin_disconnect (s : Subscriber) : Akin s s.disconnect := by
  unfold disconnect
  split <;> exact ⟨rfl, rfl, rfl⟩

theorem position_disconnect (s : Subscriber) :
    s.disconnect.subscription.position = s.subscription.position := by
  unfold disconnect
  split <;> rfl

theorem stream_disconnect (s : Subscriber) : s.disconnect.subscription.stream = none := by
  unfold disconnect
  split
  · assumption
  · rfl

theorem Passed.akin {s t : Subscriber} {fuel : Nat} {round : Round}
    (h : s.Passed fuel round t) : Akin s t := by
  have hopening : ∀ subscription : Subscription,
      subscription.cache = s.subscription.cache → subscription.topic = s.subscription.topic →
        Akin s { client := (s.opening fuel).next, subscription } :=
    fun _ hcache htopic => ⟨s.service_opening fuel, hcache, htopic⟩
  cases h with
  | shutDown _ _ => exact .refl s
  | opened _ _ _ => exact hopening _ rfl rfl
  | refused _ _ _ ht =>
    subst ht
    exact (hopening _ rfl rfl).trans (akin_judge _ _)
  | waiting _ _ _ => exact hopening _ rfl rfl
  | unfinished _ _ _ => exact hopening _ rfl rfl
  | overflow _ _ _ => exact hopening _ rfl rfl
  | linkClosed _ _ => exact s.akin_disconnect
  | silent _ _ _ => exact .refl s
  | event _ _ _ _ _ => exact ⟨rfl, rfl, rfl⟩
  | fault _ _ _ _ _ => exact ⟨rfl, rfl, rfl⟩
  | @ended stream first rest _ _ _ _ =>
    have htaken : Akin s
        { client := (s.taking stream first rest).client.record [.ended s.subscription.request]
          subscription := (s.taking stream first rest).subscription } := ⟨rfl, rfl, rfl⟩
    exact htaken.trans (akin_disconnect _)
  | @broken stream first rest _ _ _ _ _ _ ht =>
    subst ht
    have htaken : Akin s (s.taking stream first rest) := ⟨rfl, rfl, rfl⟩
    exact (htaken.trans (akin_judge _ _)).trans (akin_disconnect _)

theorem akin_round (s : Subscriber) (fuel : Nat) : Akin s (s.round fuel).next :=
  (s.round_passed fuel).akin

theorem akin_event (fuel : Nat) (s : Subscriber) : Akin s (event fuel s).next := by
  induction fuel generalizing s with
  | zero => exact .refl s
  | succ fuel ih =>
    have hfirst := s.akin_round fuel
    simp only [event]
    split
    · exact hfirst
    · exact hfirst.trans (ih _)

theorem akin_item (patience fuel : Nat) (s : Subscriber) :
    Akin s (item patience fuel s).next := by
  induction fuel generalizing s with
  | zero => exact .refl s
  | succ fuel ih =>
    have hfirst := akin_event patience s
    simp only [item]
    split
    · exact hfirst
    · exact hfirst.trans (ih _)
    all_goals exact hfirst

end Subscriber

/-- What is found under a handle after something was put under one. -/
theorem Session.get?_set {s : Session} {c : Client} {y : Option Subscription} {handle : Nat}
    (hhandle : handle < s.subscriptions.length) (other : Nat) :
    get? ⟨c, s.subscriptions.set handle y⟩ other = if handle = other then y else s.get? other := by
  unfold get?
  by_cases hother : handle = other
  · subst hother
    simp [hhandle]
  · simp [hother]

end PubSub
