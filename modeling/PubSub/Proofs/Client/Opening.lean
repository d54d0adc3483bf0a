import PubSub.Proofs.Client.Rounds
import PubSub.Proofs.Pool.Search
import PubSub.Proofs.Retry.Deadline

/-!
# Opening subscriptions

What comes of asking for a subscription, once a slot on an open link was granted.

Two things decide about it: how the call for the stream ended, and what could be read from the
stream first.  One deadline, fixed before the first attempt, holds for all attempts and for the
first message alike.

* `Client.Grants`: the pool grants a slot on an open link; `Client.exists_grants`: when it does.
* `Feed.first?`: what is read from a new stream first.
* `Client.Settled`: the ways in which the opening of a stream can go; `Client.openOn_settled`: there
  is no other way.
* `subscribe_outcome`: what follows for the answer of a subscribe, and for what is left behind.
-/

namespace PubSub

/-! ## Outcomes -/

namespace Outcome

variable {α β : Type} {f : α → β} {o : Outcome α}

theorem map_eq_ok {b : β} : o.map f = .ok b ↔ ∃ a, o = .ok a ∧ b = f a := by
  cases o <;> simp [map, eq_comm]

theorem map_eq_error {e : TopicError} : o.map f = .error e ↔ o = .error e := by
  cases o <;> simp [map]

theorem map_eq_waiting : o.map f = .waiting ↔ o = .waiting := by
  cases o <;> simp [map]

theorem map_eq_unfinished : o.map f = .unfinished ↔ o = .unfinished := by
  cases o <;> simp [map]

theorem map_eq_overflow : o.map f = .overflow ↔ o = .overflow := by
  cases o <;> simp [map]

end Outcome

/-! ## Slots on open links -/

namespace SlotPool

theorem notices_makeRoom {p : SlotPool} (h : p.makeRoom.answer = .ok ()) :
    p.makeRoom.notices = [] := by
  unfold makeRoom at h ⊢
  split
  · rfl
  · rename_i hfull
    rw [if_neg hfull] at h
    split
    · rename_i hgrow
      rw [if_pos hgrow] at h
      unfold grow at h ⊢
      split
      · rfl
      · rename_i hmade
        rw [hmade] at h
        cases h
    · rfl

/-- A claim that is granted reports at most that the pool is nearly full. -/
theorem notices_claim {p : SlotPool} {i : Nat} (h : p.claim.answer = .ok i) {n : Notice}
    (hn : n ∈ p.claim.notices) : ∃ remaining total, n = .nearLimit remaining total := by
  unfold claim at h hn
  split at h
  · cases h
  · rename_i hopen
    simp only [if_neg hopen] at hn
    cases hmade : p.makeRoom.answer with
    | error e =>
      simp only [hmade] at h
      cases h
    | ok made =>
      simp only [hmade, notices_makeRoom hmade, List.nil_append] at hn
      unfold headroomNotices at hn
      split at hn
      · exact ⟨_, _, List.mem_singleton.1 hn⟩
      · cases hn

end SlotPool

namespace Client

variable {c : Client} {link : Nat}

/-- The client's pool grants a slot on a link that is open. -/
structure Grants (c : Client) (link : Nat) : Prop where
  granted : c.pool.claim.answer = .ok link
  connected : ∃ l connection, c.pool.claim.next.links[link]? = some l ∧
    l.connection = some connection

/-- A slot is granted by a pool that is open and has one left, or can add a link, if the links are
open; the counter of visits must not start again in the middle of the search. -/
theorem exists_grants {q : SlotPool} (hopen : c.pool.closed = false) (hroom : c.pool.Room q)
    (hslots : 0 < c.pool.slotsPerLink) (hwrap : c.pool.rotor + c.pool.visits ≤ rotorPeriod)
    (hlinks : ∀ l ∈ q.links, l.isClosed = false) : ∃ link, c.Grants link := by
  rcases hroom.eq_makeRoom with ⟨hmade, rfl⟩
  cases hsearch : SlotPool.findFree c.pool.makeRoom.next.links c.pool.makeRoom.next.slotsPerLink
      c.pool.makeRoom.next.capacity c.pool.makeRoom.next.rotor with
  | mk found rotor =>
    have hfound := hroom.findFree_ne_none hopen hslots hwrap
    rw [hsearch] at hfound
    rcases Option.ne_none_iff_exists'.1 hfound with ⟨link, rfl⟩
    rcases SlotPool.findFree_some hsearch with ⟨l, hl, -⟩
    have hconnected : l.connection.isNone = false := hlinks l (List.mem_of_getElem? hl)
    rcases Option.isSome_iff_exists.1 (Option.isNone_eq_false_iff.1 hconnected) with
      ⟨connection, hconnection⟩
    -- the claim counts one stream more on the link, and leaves its connection alone
    refine ⟨link, ?_, l.claim, connection, ?_, hconnection⟩
    · simp [SlotPool.claim, hopen, hmade, SlotPool.take, hsearch]
    · simp [SlotPool.claim, hopen, hmade, SlotPool.take, hsearch, hl]

end Client

/-! ## Opening streams -/

/-- What is read from a new stream first, and what is left behind it: the first arrival, if it is
there already or comes before a timer has rung. -/
def Feed.first? (limit : Nat) (now ring : Instant) : Feed → Option (Arrival × Feed)
  | [] => none
  | signal :: rest =>
    if signal.ready ≤ now ∨ signal.ready ≤ ring then
      some (signal.arrival.within limit, rest)
    else none

namespace Client

/-- The client that has asked for a slot. -/
def asking (c : Client) (r : SubscribeRequest) : Client :=
  { c with pool := c.pool.claim.next }.record [.opened r]

/-- The call for a stream.  Its time limit is the usual one. -/
def establishing (c : Client) (r : SubscribeRequest) (fuel : Nat) : Run Feed :=
  c.caller.call subscribePath none
    (fun a => c.service.subscribe (c.subscribeCount + a.number - 1) r.toMessage) c.now fuel

/-- What is read first from a stream that a call got, before the timer for the same time limit has
rung. -/
def greeting (c : Client) (run : Run Feed) (feed : Feed) : Option (Arrival × Feed) :=
  feed.first? c.receiveLimit run.stopped (c.clock.ring (c.now + c.requestTimeout.nanos))

/-- The ways in which the opening of a stream on a link can go, after a call for it: the answer,
what is reported, and the pool. -/
inductive Settled (c : Client) (link : Nat) (run : Run Feed) :
    Outcome ActiveStream → List Notice → SlotPool → Prop where
  | overflow (hending : run.ending = .overflow) :
      Settled c link run .overflow [] (c.pool.release link)
  | unfinished (hending : run.ending = .unfinished) :
      Settled c link run .unfinished [] (c.pool.release link)
  | late {s : Status} (hending : run.ending = .returned (.error s))
      (hcode : s.code = .deadlineExceeded) :
      Settled c link run (.error (.timeout (.notEstablished s.message))) [] (c.pool.release link)
  | refused {s : Status} (hending : run.ending = .returned (.error s))
      (hcode : s.code ≠ .deadlineExceeded) :
      Settled c link run (.error (.service s)) (serviceNotices s) (c.pool.release link)
  | silent {feed : Feed} (hending : run.ending = .returned (.ok feed))
      (hfirst : c.greeting run feed = none) :
      Settled c link run (.error (.timeout .noFirstMessage)) [] (c.pool.release link)
  | greeted {feed rest : Feed} (hending : run.ending = .returned (.ok feed))
      (hfirst : c.greeting run feed = some (.message { kind := some .heartbeat }, rest)) :
      Settled c link run (.ok ⟨link, rest⟩) [] c.pool
  | notHeartbeat {feed rest : Feed} {d : Delivery} (hending : run.ending = .returned (.ok feed))
      (hfirst : c.greeting run feed = some (.message { kind := some d }, rest))
      (hother : d ≠ .heartbeat) :
      Settled c link run (.error (.unexpected (.notHeartbeat d))) [] (c.pool.release link)
  | noKind {feed rest : Feed} (hending : run.ending = .returned (.ok feed))
      (hfirst : c.greeting run feed = some (.message { kind := none }, rest)) :
      Settled c link run (.error (.unexpected .noHeartbeat)) [] (c.pool.release link)
  | ended {feed rest : Feed} (hending : run.ending = .returned (.ok feed))
      (hfirst : c.greeting run feed = some (.ended, rest)) :
      Settled c link run (.error (.unexpected .noHeartbeat)) [] (c.pool.release link)
  | broken {feed rest : Feed} {s : Status} (hending : run.ending = .returned (.ok feed))
      (hfirst : c.greeting run feed = some (.failed s, rest)) :
      Settled c link run (.error (.service s)) (serviceNotices s) (c.pool.release link)

/-- The opening of a stream in terms of the call for it. -/
theorem openOn_eq (c : Client) (link : Nat) (r : SubscribeRequest) (fuel : Nat) :
    c.openOn link r fuel =
      let run := c.establishing r fuel
      let sent := run.tries.map fun _ => Act.subscribed r.toMessage c.metadata
      let d := { c.record sent with now := run.stopped }
      match run.ending with
      | .overflow => { answer := .overflow, next := d.release link }
      | .unfinished => { answer := .unfinished, next := d.release link }
      | .returned (.error s) =>
        { answer := .error (subscribeError s), next := d.release link
          notices := if s.code = .deadlineExceeded then [] else serviceNotices s }
      | .returned (.ok feed) => d.awaitHeartbeat link (c.now + c.requestTimeout.nanos) feed := by
  unfold openOn establishing Caller.call
  cases hdeadline : Instant.after? c.now c.requestTimeout with
  | none =>
    have hnone : c.caller.overallDeadline none c.now = none := hdeadline
    simp [hnone, record]
  | some deadline =>
    have hsome : c.caller.overallDeadline none c.now = some deadline := hdeadline
    have hsum : deadline = c.now + c.requestTimeout.nanos := c.caller.overallDeadline_eq hsome
    simp only [hsome, ← hsum]
    rfl

/-- Reading from a stream that a call got settles the opening, whatever was recorded before. -/
theorem awaitHeartbeat_settled (c : Client) (link : Nat) (acts : List Act) {run : Run Feed}
    {feed : Feed} (hending : run.ending = .returned (.ok feed)) :
    let opening := awaitHeartbeat { c.record acts with now := run.stopped } link
      (c.now + c.requestTimeout.nanos) feed
    Settled c link run opening.answer opening.notices opening.next.pool := by
  intro opening
  cases feed with
  | nil => exact .silent hending rfl
  | cons signal rest =>
    simp only [opening, awaitHeartbeat]
    split
    · rename_i hlate
      have hfirst : c.greeting run (signal :: rest) = none := by
        have hneither : ¬ (signal.ready ≤ run.stopped ∨
            signal.ready ≤ c.clock.ring (c.now + c.requestTimeout.nanos)) := by
          rintro (hnow | hby)
          · exact absurd hlate.1 (Int.not_lt.2 hnow)
          · exact absurd hlate.2 (Int.not_lt.2 hby)
        simp only [greeting, Feed.first?, if_neg hneither]
      exact .silent hending hfirst
    · rename_i hearly
      have hfirst : c.greeting run (signal :: rest) =
          some (signal.arrival.within c.receiveLimit, rest) := by
        have heither : signal.ready ≤ run.stopped ∨
            signal.ready ≤ c.clock.ring (c.now + c.requestTimeout.nanos) := by
          by_contra hneither
          rcases not_or.1 hneither with ⟨hnow, hby⟩
          exact hearly ⟨Int.not_le.1 hnow, Int.not_le.1 hby⟩
        simp only [greeting, Feed.first?, if_pos heither]
      -- the first arrival is there in time, and decides
      split
      · rename_i hheartbeat
        exact .greeted hending (hheartbeat ▸ hfirst)
      · rename_i other hother hmessage
        exact .notHeartbeat hending (hmessage ▸ hfirst) hother
      · rename_i hmessage
        exact .noKind hending (hmessage ▸ hfirst)
      · rename_i hended
        exact .ended hending (hended ▸ hfirst)
      · rename_i s hfailed
        exact .broken hending (hfailed ▸ hfirst)

/-- The opening of a stream goes in one of the ways described. -/
theorem openOn_settled (c : Client) (link : Nat) (r : SubscribeRequest) (fuel : Nat) :
    let opening := c.openOn link r fuel
    Settled c link (c.establishing r fuel) opening.answer opening.notices opening.next.pool := by
  intro opening
  simp only [opening, openOn_eq]
  split
  · rename_i hending
    exact .overflow hending
  · rename_i hending
    exact .unfinished hending
  · rename_i s hending
    unfold subscribeError
    split
    · rename_i hcode
      exact .late hending hcode
    · rename_i hcode
      exact .refused hending hcode
  · rename_i feed hending
    exact c.awaitHeartbeat_settled link _ hending

/-! ### What follows for the answer -/

namespace Settled

variable {c : Client} {link : Nat} {run : Run Feed} {answer : Outcome ActiveStream}
  {notices : List Notice} {pool : SlotPool}

theorem ok_iff (h : Settled c link run answer notices pool) (stream : ActiveStream) :
    answer = .ok stream ↔ ∃ feed rest, run.ending = .returned (.ok feed) ∧
      c.greeting run feed = some (.message { kind := some .heartbeat }, rest) ∧
      stream = ⟨link, rest⟩ := by
  cases h <;> grind

theorem timeout_iff (h : Settled c link run answer notices pool) (l : Lateness) :
    answer = .error (.timeout l) ↔
      (∃ s, run.ending = .returned (.error s) ∧ s.code = .deadlineExceeded ∧
        l = .notEstablished s.message) ∨
      ∃ feed, run.ending = .returned (.ok feed) ∧ c.greeting run feed = none ∧
        l = .noFirstMessage := by
  cases h <;> grind

theorem service_iff (h : Settled c link run answer notices pool) (s : Status) :
    answer = .error (.service s) ↔
      (run.ending = .returned (.error s) ∧ s.code ≠ .deadlineExceeded) ∨
      ∃ feed rest, run.ending = .returned (.ok feed) ∧
        c.greeting run feed = some (.failed s, rest) := by
  cases h <;> grind

theorem unexpected_iff (h : Settled c link run answer notices pool) (u : Surprise) :
    answer = .error (.unexpected u) ↔ ∃ feed rest, run.ending = .returned (.ok feed) ∧
      ((∃ d, c.greeting run feed = some (.message { kind := some d }, rest) ∧ d ≠ .heartbeat ∧
        u = .notHeartbeat d) ∨
      (c.greeting run feed = some (.message { kind := none }, rest) ∨
        c.greeting run feed = some (.ended, rest)) ∧ u = .noHeartbeat) := by
  cases h <;> grind

/-- No other error comes of the opening of a stream. -/
theorem error_cases (h : Settled c link run answer notices pool) {e : TopicError}
    (herror : answer = .error e) :
    (∃ l, e = .timeout l) ∨ (∃ s, e = .service s) ∨ ∃ u, e = .unexpected u := by
  cases h <;> cases herror <;> simp

theorem ne_waiting (h : Settled c link run answer notices pool) : answer ≠ .waiting := by
  cases h <;> exact nofun

theorem unfinished_iff (h : Settled c link run answer notices pool) :
    answer = .unfinished ↔ run.ending = .unfinished := by
  cases h <;> simp [*]

theorem overflow_iff (h : Settled c link run answer notices pool) :
    answer = .overflow ↔ run.ending = .overflow := by
  cases h <;> simp [*]

/-- The limit of the account is reported together with an error of the service that says so. -/
theorem accountLimit_mem_iff (h : Settled c link run answer notices pool) (message : String) :
    .accountLimit message ∈ notices ↔
      ∃ s, answer = .error (.service s) ∧ s.code = .resourceExhausted ∧ message = s.message := by
  have hnotices : ∀ s, .accountLimit message ∈ serviceNotices s ↔
      s.code = .resourceExhausted ∧ message = s.message := by
    intro s
    unfold serviceNotices
    split <;> simp [*]
  cases h <;> simp [hnotices]

/-- The slot is kept for a stream that was opened, and given back otherwise. -/
theorem pool_eq (h : Settled c link run answer notices pool) :
    ((∃ stream, answer = .ok stream) → pool = c.pool) ∧
      ((∀ stream, answer ≠ .ok stream) → pool = c.pool.release link) := by
  cases h <;> simp

end Settled

/-- With a slot on an open link the stream is opened there. -/
theorem openStream_of_grants {c : Client} {link : Nat} (h : c.Grants link) (r : SubscribeRequest)
    (fuel : Nat) :
    c.openStream r fuel =
      let opening := (c.asking r).openOn link r fuel
      { opening with notices := c.pool.claim.notices ++ opening.notices } := by
  rcases h.connected with ⟨l, connection, hl, hconnection⟩
  have hopen : ((record { c with pool := c.pool.claim.next } [.opened r]).pool.links[link]?).map
      Link.connection? = some (.ok connection) := by
    show (c.pool.claim.next.links[link]?).map Link.connection? = _
    simp [hl, Link.connection?, hconnection]
  unfold openStream
  simp only [h.granted]
  rw [hopen]
  rfl

/-- With names that are not blank either, a subscription is what comes of that. -/
theorem subscribe_of_grants {c : Client} {link : Nat} (h : c.Grants link) {r : SubscribeRequest}
    (hcache : Text.allBlank r.cache = false) (htopic : Text.allBlank r.topic = false)
    (fuel : Nat) :
    c.subscribe r fuel =
      let opening := (c.asking r).openOn link r fuel
      { answer := opening.answer.map fun stream =>
          { cache := r.cache, topic := r.topic, position := r.position, stream := some stream }
        next := opening.next
        notices := c.pool.claim.notices ++ opening.notices } := by
  have hnames : checkNames r.cache r.topic = .ok () := by
    simp [checkNames, hcache, htopic]
  unfold subscribe
  rw [hnames]
  simp only [openStream_of_grants h]

/-! ### What is left behind -/

theorem openOn_next (c : Client) (link : Nat) (r : SubscribeRequest) (fuel : Nat) :
    ∃ pool now, (c.openOn link r fuel).next =
      { c with
        pool, now
        history := c.history ++ List.replicate (c.establishing r fuel).tries.length
          (.subscribed r.toMessage c.metadata) } := by
  rw [openOn_eq, ← List.map_const]
  simp only
  split
  · exact ⟨_, _, rfl⟩
  · exact ⟨_, _, rfl⟩
  · exact ⟨_, _, rfl⟩
  · rcases awaitHeartbeat_next _ link (c.now + c.requestTimeout.nanos) _ with ⟨pool, now, hnext⟩
    exact ⟨pool, now, hnext⟩

/-- The opening of a stream changes the pool and the time of the client, and adds to its history
that a slot was asked for and the requests that were sent. -/
theorem openStream_next (c : Client) (r : SubscribeRequest) (fuel : Nat) :
    ∃ pool now requests,
      (requests = 0 ∨ requests = ((c.asking r).establishing r fuel).tries.length) ∧
      (c.openStream r fuel).next =
        { c with
          pool, now
          history := c.history ++
            .opened r :: List.replicate requests (.subscribed r.toMessage c.metadata) } := by
  unfold openStream
  simp only
  split
  · exact ⟨_, _, 0, Or.inl rfl, rfl⟩
  · rename_i link hgranted
    split
    · rcases (c.asking r).openOn_next link r fuel with ⟨pool, now, hnext⟩
      refine ⟨pool, now, _, Or.inr rfl, hnext.trans ?_⟩
      simp only [asking, record, List.append_assoc]
      rfl
    · exact ⟨_, _, 0, Or.inl rfl, rfl⟩

/-- The opening of a stream never goes on waiting for ever. -/
theorem openStream_ne_waiting (c : Client) (r : SubscribeRequest) (fuel : Nat) :
    (c.openStream r fuel).answer ≠ .waiting := by
  unfold openStream
  simp only
  split
  · exact nofun
  · split
    · exact (openOn_settled _ _ r fuel).ne_waiting
    · exact nofun

/-! ### The call for a stream -/

/-- The strategy of a client is that of its policy, with one rule for all failures. -/
theorem strategy_caller (c : Client) : c.caller.strategy =
    some (c.policy.ruled (fun _ => c.policy.eligibility) (c.chance c.history.length)) :=
  congrArg some (c.policy.ruled_eligibility _).symm

/-- A call for a stream has one deadline, which is fixed before the first attempt, unless that
cannot be represented. -/
theorem establishing_cases (c : Client) (r : SubscribeRequest) (fuel : Nat) :
    let deadline := c.now + c.requestTimeout.nanos
    (Instant.after? c.now c.requestTimeout = none ∧
        c.establishing r fuel = ⟨[], .overflow, c.now⟩) ∨
      c.establishing r fuel = c.caller.attempts subscribePath deadline
        (fun a => c.service.subscribe (c.subscribeCount + a.number - 1) r.toMessage) fuel
        ⟨1, deadline⟩ c.now := by
  intro deadline
  unfold establishing Caller.call
  cases hoverall : c.caller.overallDeadline none c.now with
  | none => exact Or.inl ⟨hoverall, rfl⟩
  | some overall =>
    have hdeadline : overall = deadline := c.caller.overallDeadline_eq hoverall
    exact Or.inr (hdeadline ▸ rfl)

/-- Retries do not extend the deadline. -/
theorem deadline_establishing (c : Client) (r : SubscribeRequest) (fuel : Nat) :
    let deadline := c.now + c.requestTimeout.nanos
    ∀ t ∈ (c.establishing r fuel).tries, t.attempt.deadline ≤ deadline := by
  intro deadline t ht
  rcases c.establishing_cases r fuel with ⟨-, hnone⟩ | hmade
  · rw [hnone] at ht
    exact absurd ht List.not_mem_nil
  · rw [hmade] at ht
    let rules (_ : Failure) := c.policy.eligibility
    let draws := c.chance c.history.length
    have hcap : ∀ start next,
        (c.policy.ruled rules draws).nextDeadline start deadline = some next → next ≤ deadline :=
      fun _ _ => c.policy.nextDeadline_le rules draws
    have hfirst : (⟨1, deadline⟩ : Attempt).deadline ≤ deadline := Int.le_refl deadline
    rcases Caller.deadline_le c.strategy_caller hcap fuel hfirst t ht with ⟨b, start, hb, rfl⟩
    exact hb

/-- The stream that a call returns is that of its last attempt, and no attempt before that got
one. -/
theorem last_establishing {c : Client} {r : SubscribeRequest} {fuel : Nat} {feed : Feed}
    (h : (c.establishing r fuel).ending = .returned (.ok feed)) :
    (∃ t, (c.establishing r fuel).tries.getLast? = some t ∧ t.outcome = .ok feed) ∧
      ∀ t ∈ (c.establishing r fuel).tries.dropLast, ∃ s, t.outcome = .error s := by
  rcases c.establishing_cases r fuel with ⟨-, hnone⟩ | hmade
  · rw [hnone] at h
    cases h
  · rw [hmade] at h ⊢
    have course := c.caller.attempts_course _ _ _ fuel _ _ h
    rcases course.ends with ⟨t, hlast, -, hout⟩
    refine ⟨⟨t, hlast, hout⟩, ?_⟩
    intro u hu
    cases hfailed : u.outcome with
    | ok other => exact absurd (.success other hfailed) (course.notEarlier u hu)
    | error s => exact ⟨s, rfl⟩

end Client

/-! ## The first event -/

/-- What a message that is read comes to: an event, or an error about what it lacks. -/
def Outcome.ofMessage (m : DeliveryMessage) : Outcome Event :=
  match Event.ofMessage m with
  | .ok e => .ok e
  | .error fault => .error (.unexpected (.fault fault))

/-- A subscriber to whose stream a message has come reads it next. -/
theorem Subscriber.answer_event {s : Subscriber} {stream : ActiveStream} {next : Signal}
    {later : Feed} {m : DeliveryMessage} (hstream : s.subscription.stream = some stream)
    (hlink : linkClosed s.client stream = false) (hfeed : stream.feed = next :: later)
    (harrival : next.arrival.within s.client.receiveLimit = .message m) (fuel : Nat) :
    (event (fuel + 1) s).answer = .ofMessage m := by
  unfold Outcome.ofMessage
  cases hevent : Event.ofMessage m <;>
    simp [event, round, hstream, hlink, read, hfeed, harrival, hevent]

/-- What a subscribe comes to, after a call for a stream on a link. -/
structure Client.Subscribed (c : Client) (link : Nat) (r : SubscribeRequest) (run : Run Feed)
    (opened : Reply Client (Outcome Subscription)) : Prop where
  /-- One deadline is fixed before the first attempt, and retries do not extend it. -/
  deadline : ∀ t ∈ run.tries, t.attempt.deadline ≤ c.now + c.requestTimeout.nanos
  /-- It succeeds if a stream is returned that begins with a heartbeat in time.  The heartbeat alone
  is taken off the stream. -/
  ok : ∀ x, opened.answer = .ok x ↔
    ∃ feed rest, run.ending = .returned (.ok feed) ∧
      c.greeting run feed = some (.message { kind := some .heartbeat }, rest) ∧
      x = { cache := r.cache, topic := r.topic, position := r.position
            stream := some ⟨link, rest⟩ }
  /-- It is too late if the call returns that, or if nothing comes by the deadline. -/
  timeout : ∀ l, opened.answer = .error (.timeout l) ↔
    (∃ s, run.ending = .returned (.error s) ∧ s.code = .deadlineExceeded ∧
      l = .notEstablished s.message) ∨
    ∃ feed, run.ending = .returned (.ok feed) ∧ c.greeting run feed = none ∧ l = .noFirstMessage
  /-- Other failures, of the call or of the stream at once, are the service's. -/
  service : ∀ s, opened.answer = .error (.service s) ↔
    (run.ending = .returned (.error s) ∧ s.code ≠ .deadlineExceeded) ∨
    ∃ feed rest, run.ending = .returned (.ok feed) ∧
      c.greeting run feed = some (.failed s, rest)
  /-- It is a surprise if something else comes first. -/
  unexpected : ∀ u, opened.answer = .error (.unexpected u) ↔
    ∃ feed rest, run.ending = .returned (.ok feed) ∧
      ((∃ d, c.greeting run feed = some (.message { kind := some d }, rest) ∧ d ≠ .heartbeat ∧
        u = .notHeartbeat d) ∨
      (c.greeting run feed = some (.message { kind := none }, rest) ∨
        c.greeting run feed = some (.ended, rest)) ∧ u = .noHeartbeat)
  errors : ∀ e, opened.answer = .error e →
    (∃ l, e = .timeout l) ∨ (∃ s, e = .service s) ∨ ∃ u, e = .unexpected u
  notWaiting : opened.answer ≠ .waiting
  unfinished : opened.answer = .unfinished ↔ run.ending = .unfinished
  overflow : opened.answer = .overflow ↔ run.ending = .overflow
  /-- A stream that is returned is that of the last attempt; no attempt before got one. -/
  last : ∀ feed, run.ending = .returned (.ok feed) →
    (∃ t, run.tries.getLast? = some t ∧ t.outcome = .ok feed) ∧
      ∀ t ∈ run.tries.dropLast, ∃ s, t.outcome = .error s
  /-- The slot is kept for a subscription, and given back otherwise. -/
  kept : (∃ x, opened.answer = .ok x) → opened.next.pool = c.pool.claim.next
  givenBack : (∀ x, opened.answer ≠ .ok x) → opened.next.pool = c.pool.claim.next.release link
  /-- The first event is the message behind the heartbeat. -/
  next : ∀ x, opened.answer = .ok x → ∀ stream signal later m, x.stream = some stream →
    stream.feed = signal :: later → signal.arrival.within c.receiveLimit = .message m →
    ∀ n, (Subscriber.event (n + 1) ⟨opened.next, x⟩).answer = .ofMessage m
  /-- The limit of the account is reported with an error of the service that says so. -/
  reported : ∀ message, .accountLimit message ∈ opened.notices ↔
    ∃ s, opened.answer = .error (.service s) ∧ s.code = .resourceExhausted ∧ message = s.message

/-- Take a client with any policy and any service, whose pool grants a slot on an open link, and
names that are not blank.  How the call for a stream ends, and what can be read from the stream
first by the deadline of the call, decide about the answer of a subscribe and about all that it
leaves behind. -/
theorem subscribe_outcome {c : Client} {link : Nat} (hgrants : c.Grants link)
    {r : SubscribeRequest} (hcache : Text.allBlank r.cache = false)
    (htopic : Text.allBlank r.topic = false) (fuel : Nat) :
    c.Subscribed link r ((c.asking r).establishing r fuel) (c.subscribe r fuel) := by
  let run := (c.asking r).establishing r fuel
  let opening := (c.asking r).openOn link r fuel
  have hsettled : (c.asking r).Settled link run opening.answer opening.notices
      opening.next.pool := (c.asking r).openOn_settled link r fuel
  rw [Client.subscribe_of_grants hgrants hcache htopic]
  show c.Subscribed link r run
    { answer := opening.answer.map fun stream =>
        { cache := r.cache, topic := r.topic, position := r.position, stream := some stream }
      next := opening.next
      notices := c.pool.claim.notices ++ opening.notices }
  refine
    { deadline := (c.asking r).deadline_establishing r fuel
      ok := ?_
      timeout := fun l => Outcome.map_eq_error.trans (hsettled.timeout_iff l)
      service := fun s => Outcome.map_eq_error.trans (hsettled.service_iff s)
      unexpected := fun u => Outcome.map_eq_error.trans (hsettled.unexpected_iff u)
      errors := fun _ herror => hsettled.error_cases (Outcome.map_eq_error.1 herror)
      notWaiting := fun hwaiting => hsettled.ne_waiting (Outcome.map_eq_waiting.1 hwaiting)
      unfinished := Outcome.map_eq_unfinished.trans hsettled.unfinished_iff
      overflow := Outcome.map_eq_overflow.trans hsettled.overflow_iff
      last := fun _ => Client.last_establishing
      kept := ?_
      givenBack := ?_
      next := ?_
      reported := ?_ }
  · intro x
    rw [Outcome.map_eq_ok]
    constructor
    · rintro ⟨stream, hstream, rfl⟩
      rcases (hsettled.ok_iff stream).1 hstream with ⟨feed, rest, hending, hfirst, rfl⟩
      exact ⟨feed, rest, hending, hfirst, rfl⟩
    · rintro ⟨feed, rest, hending, hfirst, rfl⟩
      exact ⟨_, (hsettled.ok_iff _).2 ⟨feed, rest, hending, hfirst, rfl⟩, rfl⟩
  · rintro ⟨x, hx⟩
    rcases Outcome.map_eq_ok.1 hx with ⟨stream, hstream, -⟩
    exact hsettled.pool_eq.1 ⟨stream, hstream⟩
  · intro hnone
    exact hsettled.pool_eq.2 fun stream hstream =>
      hnone _ (Outcome.map_eq_ok.2 ⟨stream, hstream, rfl⟩)
  · intro x hx stream signal later m hstream hfeed harrival n
    rcases Outcome.map_eq_ok.1 hx with ⟨opened, hanswer, rfl⟩
    cases hstream
    -- the stream is on the link that was open when its slot was granted
    have hpool : opening.next.pool = c.pool.claim.next := hsettled.pool_eq.1 ⟨_, hanswer⟩
    rcases (hsettled.ok_iff _).1 hanswer with ⟨feed, rest, -, -, rfl⟩
    rcases (c.asking r).openOn_next link r fuel with ⟨pool, now, hnext⟩
    have hlimit : opening.next.receiveLimit = c.receiveLimit := by
      simp only [opening, hnext]
      rfl
    rcases hgrants.connected with ⟨l, connection, hl, hconnection⟩
    have hopen : Subscriber.linkClosed opening.next ⟨link, rest⟩ = false := by
      simp [Subscriber.linkClosed, hpool, hl, Link.isClosed, hconnection]
    exact Subscriber.answer_event rfl hopen hfeed (hlimit.symm ▸ harrival) n
  · intro message
    have hclaim : .accountLimit message ∉ c.pool.claim.notices := by
      intro hmem
      rcases SlotPool.notices_claim hgrants.granted hmem with ⟨_, _, hother⟩
      cases hother
    rw [List.mem_append, or_iff_right hclaim, hsettled.accountLimit_mem_iff]
    simp only [Outcome.map_eq_error]

/-- A message that names the next number. -/
def gapMessage : DeliveryMessage where
  kind := some (.gap { last := 3, new := 7 })

/-- A service that refuses the first request. -/
def hesitantService : Service where
  publish _ _ := { takes := some .zero, result := .ok () }
  subscribe k _ :=
    if k = 0 then
      { takes := some .zero, result := .error { code := .unavailable, message := "" } }
    else
      { takes := some (.ofMillis 20)
        result := .ok
          [⟨0, .message { kind := some .heartbeat }⟩, ⟨50000000, .message gapMessage⟩] }

/-- A client of that service. -/
def hesitantClient : Client where
  identity := ⟨[], []⟩
  policy := .counted
  requestTimeout := .ofMillis 1000
  reconnectDelay := .ofMillis 100
  receiveLimit := 4096
  pool :=
    { slotsPerLink := 1, maxLinks := 1, canGrow := false
      links := [{ id := 0, connection := some 0 }], dialer := .faultless }
  calls := { links := [], dialer := .faultless }
  service := hesitantService
  clock := .coarse
  chance := fun _ _ => .least

/-- A request for the live end of a topic. -/
def liveRequest : SubscribeRequest where
  cache := "cache"
  topic := "topic"

theorem subscribe_outcome_hesitant :
    let run := (hesitantClient.asking liveRequest).establishing liveRequest 4
    let opened := hesitantClient.subscribe liveRequest 4
    run.tries.length = 2 ∧
    ∃ link x, hesitantClient.Grants link ∧ opened.answer = .ok x ∧
      x.stream = some ⟨link, [⟨50000000, .message gapMessage⟩]⟩ ∧
      (Subscriber.event 1 ⟨opened.next, x⟩).answer =
        .ok (.discontinuity { last := 3, new := 7, newPage := 0 }) := by
  intro run opened
  have hroom : hesitantClient.pool.Room hesitantClient.pool := .already (by decide)
  have hlinks : ∀ l ∈ hesitantClient.pool.links, l.isClosed = false := by decide
  rcases Client.exists_grants rfl hroom (by decide) (by decide) hlinks with ⟨link, hgrants⟩
  have houtcome := subscribe_outcome hgrants (r := liveRequest) (by decide) (by decide) 4
  have hread : (Arrival.message gapMessage).within 4096 = .message gapMessage := by
    decide +kernel
  have hanswer := (houtcome.ok _).2
    ⟨_, [⟨50000000, .message gapMessage⟩], rfl, by decide +kernel, rfl⟩
  exact ⟨rfl, link, _, hgrants, hanswer, rfl, houtcome.next _ hanswer _ _ _ _ rfl rfl hread 0⟩

end PubSub
