import PubSub.Proofs.Client.Resume

/-!
# Positions

Where a subscription resumes, whatever its service does.

Nothing is assumed about the service: streams may bring anything in any order, break, end or never
come, and opening one may be refused again and again.  The position is still known from the events
that were delivered alone, and every request that is sent for the subscription asks for it.

To say this, what happens for a subscription is written down as a record of requests that were sent
and events that were delivered, in their order.  The requests are read off the history of the
client, so that none can be left out; a call that waits for an event sends all of them before it
delivers one.

* `Position.behind`: the position behind some events, of which only the last one counts.
* `Entry`, `Faithful`: records, and those whose requests ask for the position behind the events
  before them.
* `Subscriber.Recorded`: a subscriber comes to another state by what a record says.
* `Subscriber.recorded_event`, `Subscriber.recorded_item`, `Session.Follows.step`: waiting for an
  event, waiting for an item and every move of a session are such.
* `position_follows_events`: the position of a subscription in any session.
-/

namespace PubSub

/-! ## Positions behind events -/

namespace Position

/-- The position behind some events: after the last of them that is an item or a gap, or the same
position if there is none. -/
def behind (p : Position) (events : List Event) : Position :=
  match (events.filter fun e => e ≠ .heartbeat).getLast? with
  | some e => p.after e
  | none => p

theorem behind_singleton (p : Position) (e : Event) : p.behind [e] = p.after e := by
  cases e <;> rfl

/-- Events that come later count from the position behind those before. -/
theorem behind_append (p : Position) (before later : List Event) :
    p.behind (before ++ later) = (p.behind before).behind later := by
  unfold behind
  rw [List.filter_append, List.getLast?_append]
  cases hlast : (later.filter fun e => e ≠ .heartbeat).getLast? with
  | none => rfl
  | some e =>
    -- after an item or a gap it does not matter what the position was
    have hmem : e ∈ later.filter fun e => e ≠ .heartbeat := List.mem_of_getLast? hlast
    have hne : e ≠ .heartbeat := by simpa using List.of_mem_filter hmem
    cases e with
    | item i => rfl
    | discontinuity d => rfl
    | heartbeat => exact absurd rfl hne

/-- Behind an item the next number is due, as long as there is one. -/
theorem toNat_after_item {p : Position} {i : Item} (h : i.number.toNat + 1 < UInt64.size) :
    (p.after (.item i)).number.toNat = i.number.toNat + 1 := by
  have hadd : (i.number + 1).toNat = (i.number.toNat + 1) % UInt64.size := UInt64.toNat_add _ _
  exact hadd.trans (Nat.mod_eq_of_lt h)

end Position

/-! ## Records -/

/-- What happens for a subscription. -/
inductive Entry where
  /-- A request to subscribe was sent. -/
  | sent (m : SubscribeMessage)
  /-- An event was delivered. -/
  | delivered (e : Event)
  deriving DecidableEq, Repr

namespace Entry

def message? : Entry → Option SubscribeMessage
  | sent m => some m
  | delivered _ => none

def event? : Entry → Option Event
  | sent _ => none
  | delivered e => some e

/-- The requests of a record. -/
def messages (record : List Entry) : List SubscribeMessage := record.filterMap message?

/-- The events of a record. -/
def events (record : List Entry) : List Event := record.filterMap event?

theorem messages_append (before later : List Entry) :
    messages (before ++ later) = messages before ++ messages later := List.filterMap_append

theorem messages_sent (ms : List SubscribeMessage) : messages (ms.map .sent) = ms := by
  rw [messages, List.filterMap_map]
  exact List.filterMap_some

theorem messages_delivered (es : List Event) : messages (es.map .delivered) = [] := by
  rw [messages, List.filterMap_map]
  exact List.filterMap_eq_nil_iff.2 fun _ _ => rfl

end Entry

open Entry

/-- The request that is due when a record has been written. -/
def SubscribeRequest.behind (r : SubscribeRequest) (record : List Entry) : SubscribeRequest :=
  r.resumingAt (r.position.behind (events record))

theorem SubscribeRequest.behind_nil (r : SubscribeRequest) : r.behind [] = r := rfl

theorem SubscribeRequest.behind_append (r : SubscribeRequest) (before later : List Entry) :
    r.behind (before ++ later) = (r.behind before).behind later := by
  unfold SubscribeRequest.behind events
  rw [List.filterMap_append, Position.behind_append]
  rfl

/-- Every request of a record is the one that is due when it is sent. -/
def Faithful : SubscribeRequest → List Entry → Prop
  | _, [] => True
  | r, entry :: later =>
    (∀ m, entry = .sent m → m = r.toMessage) ∧ Faithful (r.behind [entry]) later

namespace Faithful

variable {r : SubscribeRequest}

theorem append {before later : List Entry} (h : Faithful r before)
    (hlater : Faithful (r.behind before) later) : Faithful r (before ++ later) := by
  induction before generalizing r with
  | nil => exact hlater
  | cons entry before ih =>
    refine ⟨h.1, ih h.2 ?_⟩
    rw [← SubscribeRequest.behind_append]
    exact hlater

/-- Wherever a request stands in a record, it asks for the position behind the events before it. -/
theorem sent {before later : List Entry} {m : SubscribeMessage}
    (h : Faithful r (before ++ .sent m :: later)) : m = (r.behind before).toMessage := by
  induction before generalizing r with
  | nil => exact h.1 m rfl
  | cons entry before ih =>
    have hrest := ih h.2
    rw [← SubscribeRequest.behind_append] at hrest
    exact hrest

/-- A record of one request, sent any number of times. -/
theorem of_sent {messages : List SubscribeMessage} (h : ∀ m ∈ messages, m = r.toMessage) :
    Faithful r (messages.map .sent) ∧ r.behind (messages.map .sent) = r := by
  induction messages with
  | nil => exact ⟨trivial, rfl⟩
  | cons m messages ih =>
    have hrest := ih fun n hn => h n (List.mem_cons_of_mem m hn)
    -- a request leaves the position alone
    have hsame : r.behind [.sent m] = r := rfl
    refine ⟨⟨?_, hsame ▸ hrest.1⟩, ?_⟩
    · intro n hn
      exact (Entry.sent.inj hn) ▸ h m List.mem_cons_self
    · rw [List.map_cons, ← List.singleton_append, SubscribeRequest.behind_append, hsame]
      exact hrest.2

theorem of_delivered (events : List Event) : Faithful r (events.map .delivered) := by
  induction events generalizing r with
  | nil => trivial
  | cons e events ih =>
    refine ⟨?_, ih⟩
    intro m hm
    cases hm

end Faithful

/-! ## Requests in the history of a client -/

/-- The request to subscribe that was sent, if that is what happened. -/
def Act.request? : Act → Option SubscribeMessage
  | .subscribed m _ => some m
  | _ => none

namespace Client

/-- The requests to subscribe that were sent after so many acts of the client. -/
def requestsSince (c : Client) (count : Nat) : List SubscribeMessage :=
  (c.history.drop count).filterMap Act.request?

/-- A client did something more, and sent requests in doing so. -/
def Sends (c : Client) (messages : List SubscribeMessage) (t : Client) : Prop :=
  ∃ acts, t.history = c.history ++ acts ∧ acts.filterMap Act.request? = messages

namespace Sends

variable {c t u : Client} {messages more : List SubscribeMessage}

theorem of_history (h : t.history = c.history) : c.Sends [] t :=
  ⟨[], h.trans (List.append_nil _).symm, rfl⟩

theorem trans (h : c.Sends messages t) (hmore : t.Sends more u) :
    c.Sends (messages ++ more) u := by
  rcases h with ⟨acts, hacts, rfl⟩
  rcases hmore with ⟨later, hlater, rfl⟩
  exact ⟨acts ++ later, by rw [hlater, hacts, List.append_assoc], List.filterMap_append⟩

theorem requestsSince (h : c.Sends messages t) :
    t.requestsSince c.history.length = messages := by
  rcases h with ⟨acts, hacts, rfl⟩
  rw [Client.requestsSince, hacts, List.drop_left]

end Sends

theorem history_awaitHeartbeat (c : Client) (link : Nat) (deadline : Instant) (feed : Feed) :
    (c.awaitHeartbeat link deadline feed).next.history = c.history := by
  rcases c.awaitHeartbeat_next link deadline feed with ⟨_, _, hnext⟩
  rw [hnext]

/-- However often a request for a stream is sent, it is the same one. -/
theorem sends_openOn (c : Client) (link : Nat) (r : SubscribeRequest) (fuel : Nat) :
    ∃ count, c.Sends (List.replicate count r.toMessage) (c.openOn link r fuel).next := by
  unfold openOn
  split
  · exact ⟨0, .of_history rfl⟩
  · rename_i deadline _
    let run := c.caller.call subscribePath (some deadline)
      (fun a => c.service.subscribe (c.subscribeCount + a.number - 1) r.toMessage) c.now fuel
    -- one request for each attempt, whatever comes of them
    have hsent : (run.tries.map fun _ => Act.subscribed r.toMessage c.metadata).filterMap
        Act.request? = List.replicate run.tries.length r.toMessage := by
      rw [List.filterMap_map]
      exact (congrFun List.filterMap_eq_map' run.tries).trans List.map_const'
    refine ⟨run.tries.length, _, ?_, hsent⟩
    simp only
    split
    · rfl
    · rfl
    · rfl
    · exact history_awaitHeartbeat _ _ _ _

theorem sends_openStream (c : Client) (r : SubscribeRequest) (fuel : Nat) :
    ∃ count, c.Sends (List.replicate count r.toMessage) (c.openStream r fuel).next := by
  unfold openStream
  simp only
  have hasked : c.Sends [] ({ c with pool := c.pool.claim.next }.record [.opened r]) :=
    ⟨_, rfl, rfl⟩
  split
  · exact ⟨0, hasked⟩
  · split
    · rename_i link _ _ _ _
      rcases sends_openOn ({ c with pool := c.pool.claim.next }.record [.opened r]) link r fuel with
        ⟨count, hsent⟩
      exact ⟨count, hasked.trans hsent⟩
    · exact ⟨0, hasked⟩

end Client

namespace Subscriber

variable {s t u : Subscriber}

/-! ## Rounds -/

/-- A subscriber comes to another state without an event.  Requests were sent on the way, and all of
them were the one that is due. -/
structure Idles (s t : Subscriber) : Prop where
  request : t.subscription.request = s.subscription.request
  sends : ∃ count,
    s.client.Sends (List.replicate count s.subscription.request.toMessage) t.client

namespace Idles

theorem of_history (hrequest : t.subscription.request = s.subscription.request)
    (hhistory : t.client.history = s.client.history) : s.Idles t :=
  ⟨hrequest, 0, .of_history hhistory⟩

theorem trans (h : s.Idles t) (hmore : t.Idles u) : s.Idles u := by
  rcases h.sends with ⟨count, hsent⟩
  rcases hmore.sends with ⟨more, hlater⟩
  rw [h.request] at hlater
  refine ⟨hmore.request.trans h.request, count + more, ?_⟩
  rw [List.replicate_add]
  exact hsent.trans hlater

end Idles

theorem idles_judge (s : Subscriber) (code : StatusCode) : s.Idles (s.judge code).2 := by
  unfold judge
  simp only
  split
  · exact .of_history rfl rfl
  · exact ⟨rfl, 0, _, rfl, rfl⟩

theorem idles_disconnect (s : Subscriber) : s.Idles s.disconnect := by
  unfold disconnect
  split <;> exact .of_history rfl rfl

/-- A subscriber that opens a stream asks for its position, in every attempt. -/
theorem idles_opening (s : Subscriber) (fuel : Nat) (stream : Option ActiveStream) :
    s.Idles
      { client := (s.opening fuel).next
        subscription := { s.subscription with stream := stream } } :=
  ⟨rfl, Client.sends_openStream _ s.subscription.request fuel⟩

/-- The event that a round delivers. -/
def Round.events : Round → List Event
  | .done answer => answer.toList
  | .again => []

theorem events_roundAfter (e : TopicError) (verdict : Option Verdict) :
    (roundAfter e verdict).events = [] := by
  rcases verdict with - | - | delay | - <;> rfl

/-- A round that delivers an event sends nothing and goes behind that event; every other round
leaves the position alone. -/
theorem Passed.tracked {fuel : Nat} {round : Round} (h : s.Passed fuel round t) :
    (round.events = [] ∧ s.Idles t) ∨
      ∃ e, round.events = [e] ∧ t.client.history = s.client.history ∧
        t.subscription.request = s.subscription.request.behind [.delivered e] := by
  cases h with
  | event _ _ _ _ _ =>
    refine Or.inr ⟨_, rfl, rfl, ?_⟩
    rw [SubscribeRequest.behind]
    exact congrArg _ (Position.behind_singleton _ _).symm
  | shutDown _ _ => exact Or.inl ⟨rfl, .of_history rfl rfl⟩
  | opened _ _ _ => exact Or.inl ⟨rfl, s.idles_opening fuel _⟩
  | refused _ _ _ ht =>
    subst ht
    exact Or.inl ⟨events_roundAfter _ _, (s.idles_opening fuel _).trans (idles_judge _ _)⟩
  | waiting _ _ _ => exact Or.inl ⟨rfl, s.idles_opening fuel _⟩
  | unfinished _ _ _ => exact Or.inl ⟨rfl, s.idles_opening fuel _⟩
  | overflow _ _ _ => exact Or.inl ⟨rfl, s.idles_opening fuel _⟩
  | linkClosed _ _ => exact Or.inl ⟨rfl, s.idles_disconnect⟩
  | silent _ _ _ => exact Or.inl ⟨rfl, .of_history rfl rfl⟩
  | fault _ _ _ _ _ => exact Or.inl ⟨rfl, .of_history rfl rfl⟩
  | @ended stream first rest _ _ _ _ =>
    have htaken : s.Idles
        { client := (s.taking stream first rest).client.record [.ended s.subscription.request]
          subscription := (s.taking stream first rest).subscription } := ⟨rfl, 0, _, rfl, rfl⟩
    exact Or.inl ⟨rfl, htaken.trans (idles_disconnect _)⟩
  | @broken stream first rest _ _ _ _ _ _ ht =>
    subst ht
    have htaken : s.Idles (s.taking stream first rest) := .of_history rfl rfl
    exact Or.inl ⟨events_roundAfter _ _,
      (htaken.trans (idles_judge _ _)).trans (idles_disconnect _)⟩

/-! ## Waiting -/

/-- What waiting for an event writes down: the requests that were sent, and the event if there was
one. -/
def eventRecord (fuel : Nat) (s : Subscriber) : List Entry :=
  let waited := event fuel s
  (waited.next.client.requestsSince s.client.history.length).map .sent ++
    waited.answer.toList.map .delivered

/-- What waiting for an item writes down, over any number of other events. -/
def itemRecord (patience : Nat) : Nat → Subscriber → List Entry
  | 0, _ => []
  | fuel + 1, s =>
    eventRecord patience s ++
      match (event patience s).answer with
      | .ok (.item _) => []
      | .ok _ => itemRecord patience fuel (event patience s).next
      | _ => []

/-- A subscriber comes to another state by what a record says: every request in it was due when it
was sent, the next one that is due is the one behind it, and no request was sent that is not in
it. -/
structure Recorded (s : Subscriber) (record : List Entry) (t : Subscriber) : Prop where
  faithful : Faithful s.subscription.request record
  request : t.subscription.request = s.subscription.request.behind record
  sends : s.client.Sends (messages record) t.client

namespace Recorded

theorem refl (s : Subscriber) : s.Recorded [] s := ⟨trivial, rfl, .of_history rfl⟩

theorem trans {before later : List Entry} (h : s.Recorded before t)
    (hlater : t.Recorded later u) : s.Recorded (before ++ later) u where
  faithful := h.faithful.append (h.request ▸ hlater.faithful)
  request := by
    rw [hlater.request, h.request, SubscribeRequest.behind_append]
  sends := messages_append before later ▸ h.sends.trans hlater.sends

end Recorded

/-- The rounds of waiting for an event, up to the one that delivers it or ends the wait. -/
theorem event_tracked (fuel : Nat) (s : Subscriber) :
    ∃ t, s.Idles t ∧ t.client.history = (event fuel s).next.client.history ∧
      (event fuel s).next.subscription.request =
        t.subscription.request.behind ((event fuel s).answer.toList.map .delivered) := by
  -- on the number of rounds, of which only the last one can deliver
  induction fuel generalizing s with
  | zero => exact ⟨s, .of_history rfl rfl, rfl, rfl⟩
  | succ fuel ih =>
    have hround := (s.round_passed fuel).tracked
    simp only [event]
    split
    · rename_i answer hdone
      rw [hdone] at hround
      rcases hround with ⟨hnone, hidles⟩ | ⟨e, hevent, hhistory, hrequest⟩
      · have hnothing : answer.toList = [] := hnone
        exact ⟨_, hidles, rfl, by rw [hnothing]; rfl⟩
      · have hdelivered : answer.toList = [e] := hevent
        exact ⟨s, .of_history rfl rfl, hhistory.symm, by rw [hdelivered]; exact hrequest⟩
    · rename_i hagain
      rw [hagain] at hround
      rcases hround with ⟨-, hidles⟩ | ⟨e, hevent, -⟩
      · -- nothing was delivered, and the next round starts with the same request due
        rcases ih (s.round fuel).next with ⟨t, hrest, hhistory, hrequest⟩
        exact ⟨t, hidles.trans hrest, hhistory, hrequest⟩
      · cases hevent

theorem recorded_event (fuel : Nat) (s : Subscriber) :
    s.Recorded (eventRecord fuel s) (event fuel s).next := by
  rcases s.event_tracked fuel with ⟨t, hidles, hhistory, hrequest⟩
  rcases hidles.sends with ⟨count, acts, hacts, hsent⟩
  have hsends : s.client.Sends (List.replicate count s.subscription.request.toMessage)
      (event fuel s).next.client := ⟨acts, hhistory ▸ hacts, hsent⟩
  -- what is read off the history are the requests of the rounds
  have hrecord : eventRecord fuel s =
      (List.replicate count s.subscription.request.toMessage).map .sent ++
        (event fuel s).answer.toList.map .delivered := by
    rw [eventRecord, hsends.requestsSince]
  have hsame : Faithful s.subscription.request
        ((List.replicate count s.subscription.request.toMessage).map .sent) ∧
      s.subscription.request.behind
        ((List.replicate count s.subscription.request.toMessage).map .sent) =
          s.subscription.request := Faithful.of_sent fun m hm => List.eq_of_mem_replicate hm
  rw [hrecord]
  refine ⟨hsame.1.append (.of_delivered _), ?_, ?_⟩
  · rw [SubscribeRequest.behind_append, hsame.2, hrequest, hidles.request]
  · rw [messages_append, messages_sent, messages_delivered, List.append_nil]
    exact hsends

theorem recorded_item (patience fuel : Nat) (s : Subscriber) :
    s.Recorded (itemRecord patience fuel s) (item patience fuel s).next := by
  induction fuel generalizing s with
  | zero => exact .refl s
  | succ fuel ih =>
    have hfirst := recorded_event patience s
    have hlater := ih (event patience s).next
    simp only [item, itemRecord]
    -- the wait goes on after a heartbeat or a gap, and is over in all other cases
    cases hanswer : (event patience s).answer with
    | ok e =>
      cases e with
      | item i => simpa using hfirst
      | discontinuity d => exact hfirst.trans hlater
      | heartbeat => exact hfirst.trans hlater
    | _ => simpa using hfirst

/-! ## Malformed messages -/

/-- What can be read next is a message that is no event. -/
structure Malformed (s : Subscriber) (stream : ActiveStream) (fault : MessageFault) (rest : Feed) :
    Prop where
  connected : s.subscription.stream = some stream
  linkOpen : linkClosed s.client stream = false
  message : ∃ first m, stream.feed = first :: rest ∧
    first.arrival.within s.client.receiveLimit = .message m ∧ Event.ofMessage m = .error fault

/-- An event that can be read at once is what a wait ends with. -/
theorem event_of_message {stream : ActiveStream} {first : Signal} {rest : Feed}
    {m : DeliveryMessage} {e : Event} (hstream : s.subscription.stream = some stream)
    (hlink : linkClosed s.client stream = false) (hfeed : stream.feed = first :: rest)
    (harrival : first.arrival.within s.client.receiveLimit = .message m)
    (hevent : Event.ofMessage m = .ok e) (fuel : Nat) :
    (event (fuel + 1) s).answer = .ok e := by
  simp [event, round, hstream, hlink, read, hfeed, harrival, hevent]

/-- A malformed message is reported and taken off the stream, and that is all.  An event behind it
is what is read next. -/
theorem event_of_malformed {stream : ActiveStream} {fault : MessageFault} {rest : Feed}
    (h : s.Malformed stream fault rest) (fuel : Nat) :
    let after := (event (fuel + 1) s).next
    (event (fuel + 1) s).answer = .error (.unexpected (.fault fault)) ∧
    after.subscription = { s.subscription with stream := some { stream with feed := rest } } ∧
    after.client.pool = s.client.pool ∧ after.client.history = s.client.history ∧
    ∀ second more m e, rest = second :: more →
      second.arrival.within s.client.receiveLimit = .message m → Event.ofMessage m = .ok e →
        (event (fuel + 1) after).answer = .ok e := by
  rcases h.message with ⟨first, m, hfeed, harrival, hfault⟩
  have hevent : event (fuel + 1) s =
      { answer := .error (.unexpected (.fault fault)), next := s.taking stream first rest } := by
    simp [event, round, h.connected, h.linkOpen, read, hfeed, harrival, hfault, taking]
  rw [hevent]
  refine ⟨rfl, rfl, rfl, rfl, ?_⟩
  rintro second more m e rfl hsecond hok
  -- the link that was open is the one of the stream that is left
  have hstill : linkClosed (s.taking stream first (second :: more)).client
      { stream with feed := second :: more } = false := h.linkOpen
  exact event_of_message rfl hstill rfl hsecond hok fuel

theorem item_of_malformed {stream : ActiveStream} {fault : MessageFault} {rest : Feed}
    (h : s.Malformed stream fault rest) (patience fuel : Nat) :
    (item (patience + 1) (fuel + 1) s).answer = .error (.unexpected (.fault fault)) ∧
      (item (patience + 1) (fuel + 1) s).next = (event (patience + 1) s).next := by
  have hanswer := (event_of_malformed h patience).1
  simp [item, hanswer]

end Subscriber

/-! ## Sessions -/

namespace Session

/-- What a move writes down for the subscription of a handle. -/
def recordOf (fuel handle : Nat) (s : Session) : SessionMove → List Entry
  | .event other =>
    if other = handle then
      ((s.get? other).map fun x => Subscriber.eventRecord fuel ⟨s.client, x⟩).getD []
    else []
  | .item other =>
    if other = handle then
      ((s.get? other).map fun x => Subscriber.itemRecord fuel fuel ⟨s.client, x⟩).getD []
    else []
  | _ => []

/-- What a run of moves writes down for the subscription of a handle. -/
def record (fuel handle : Nat) : Session → List SessionMove → List Entry
  | _, [] => []
  | s, m :: moves => s.recordOf fuel handle m ++ record fuel handle (s.step fuel m) moves

/-- The subscription of a handle, unless it was given up, has a request due. -/
structure Follows (s : Session) (handle : Nat) (r : SubscribeRequest) : Prop where
  known : handle < s.subscriptions.length
  due : ∀ x, s.get? handle = some x → x.request = r

namespace Follows

variable {s t : Session} {handle fuel : Nat} {r : SubscribeRequest}

/-- What leaves the subscription alone leaves its request alone. -/
theorem congr (h : s.Follows handle r)
    (hsame : t.subscriptions[handle]? = s.subscriptions[handle]?) : t.Follows handle r where
  known := by
    have hthere : (t.subscriptions[handle]?).isSome := by
      rw [hsame]
      simpa using h.known
    simpa using hthere
  due := by
    intro x hx
    apply h.due x
    rw [get?, ← hsame]
    exact hx

/-- Waiting on the subscription of any handle, if it exists, writes down a record for it; the record
is that of this one or of another. -/
theorem wait {α : Type} {wait : Subscriber → Reply Subscriber α}
    {record : Subscriber → List Entry}
    (hrecorded : ∀ x : Subscriber, x.Recorded (record x) (wait x).next)
    (h : s.Follows handle r) (other : Nat) :
    let written := if other = handle then
      ((s.get? other).map fun x => record ⟨s.client, x⟩).getD [] else []
    let waited := ((s.get? other).map fun x => s.putBack other (wait ⟨s.client, x⟩)).map (·.next)
    Faithful r written ∧ (waited.getD s).Follows handle (r.behind written) := by
  intro written waited
  by_cases heq : other = handle
  · subst heq
    simp only [written, waited, if_pos]
    cases hget : s.get? other with
    | none => exact ⟨trivial, h⟩
    | some x =>
      -- the record starts with the request that is due
      have hx := hrecorded ⟨s.client, x⟩
      rw [show r = x.request from (h.due x hget).symm]
      refine ⟨hx.faithful, ⟨?_, ?_⟩⟩
      · exact (List.length_set ..).symm ▸ h.known
      · intro y hy
        have hput := (get?_set h.known other).symm.trans hy
        rw [if_pos rfl] at hput
        cases hput
        exact hx.request
  · have hnone : written = [] := if_neg heq
    rw [hnone, SubscribeRequest.behind_nil]
    refine ⟨trivial, ?_⟩
    cases hget : s.get? other with
    | none => simpa [waited, hget] using h
    | some x =>
      simp only [waited, hget, Option.map_some, Option.getD_some]
      exact h.congr (List.getElem?_set_ne heq)

/-- A new subscription has the request due with which it was opened. -/
theorem opened {patience : Nat} (h : (s.subscribe r patience).answer = .ok handle) :
    (s.subscribe r patience).next.Follows handle r := by
  unfold Session.subscribe at h ⊢
  cases hx : (s.client.subscribe r patience).answer with
  | ok x =>
    simp only [hx] at h ⊢
    obtain rfl : s.subscriptions.length = handle := Outcome.ok.inj h
    rcases Client.subscribe_ok hx with ⟨stream, -, hfields⟩
    refine ⟨by simp, ?_⟩
    intro y hy
    -- the new handle is that of the last subscription
    have hlast : (s.subscriptions ++ [some x])[s.subscriptions.length]? = some (some x) :=
      List.getElem?_concat_length
    have hy' : (some (some x)).join = some y := hlast ▸ hy
    cases hy'
    rw [hfields]
    rfl
  | _ =>
    simp only [hx] at h
    cases h

theorem subscribe (h : s.Follows handle r) (new : SubscribeRequest) (fuel : Nat) :
    (s.subscribe new fuel).next.Follows handle r := by
  unfold Session.subscribe
  simp only
  split
  · exact h.congr (List.getElem?_append_left h.known)
  · exact h.congr rfl

theorem drop (h : s.Follows handle r) (other : Nat) : (s.drop other).2.Follows handle r := by
  unfold Session.drop
  split
  · exact h
  · by_cases heq : other = handle
    · -- without the subscription there is nothing to follow
      subst heq
      refine ⟨(List.length_set ..).symm ▸ h.known, ?_⟩
      intro x hx
      have hnone := (get?_set h.known other).symm.trans hx
      rw [if_pos rfl] at hnone
      cases hnone
    · exact h.congr (List.getElem?_set_ne heq)

/-- Every move writes down a record for the subscription of a handle. -/
theorem step (h : s.Follows handle r) (fuel : Nat) (m : SessionMove) :
    Faithful r (s.recordOf fuel handle m) ∧
      (s.step fuel m).Follows handle (r.behind (s.recordOf fuel handle m)) := by
  cases m with
  | publish cache topic value => exact ⟨trivial, h.congr rfl⟩
  | subscribe new => exact ⟨trivial, h.subscribe new fuel⟩
  | event other => exact h.wait (Subscriber.recorded_event fuel) other
  | item other => exact h.wait (Subscriber.recorded_item fuel fuel) other
  | drop other => exact ⟨trivial, h.drop other⟩
  | closeLink link => exact ⟨trivial, h.congr rfl⟩
  | close => exact ⟨trivial, h.congr rfl⟩

/-- So does every run of moves. -/
theorem run (h : s.Follows handle r) (fuel : Nat) (moves : List SessionMove) :
    Faithful r (Session.record fuel handle s moves) ∧
      (s.run fuel moves).Follows handle (r.behind (Session.record fuel handle s moves)) := by
  induction moves generalizing s r with
  | nil => exact ⟨trivial, h⟩
  | cons m moves ih =>
    rcases h.step fuel m with ⟨hfirst, hfollows⟩
    rcases ih hfollows with ⟨hlater, hend⟩
    refine ⟨hfirst.append hlater, ?_⟩
    rw [Session.record, SubscribeRequest.behind_append]
    exact hend

end Follows

/-- No request that is sent while a subscription is waited on is left out of its record. -/
theorem messages_recordOf {fuel handle : Nat} {m : SessionMove}
    (hm : m = .event handle ∨ m = .item handle) (s : Session) :
    messages (s.recordOf fuel handle m) =
      (s.step fuel m).client.requestsSince s.client.history.length := by
  -- without a subscription nothing is sent
  have hidle : [] = s.client.requestsSince s.client.history.length :=
    (Client.Sends.of_history rfl).requestsSince.symm
  rcases hm with rfl | rfl
  · simp only [recordOf, step, event?, if_pos]
    cases hget : s.get? handle with
    | none => exact hidle
    | some x => exact (Subscriber.recorded_event fuel ⟨s.client, x⟩).sends.requestsSince.symm
  · simp only [recordOf, step, item?, if_pos]
    cases hget : s.get? handle with
    | none => exact hidle
    | some x => exact (Subscriber.recorded_item fuel fuel ⟨s.client, x⟩).sends.requestsSince.symm

end Session

/-! ## Positions of subscriptions -/

/-- A malformed message of the subscription of a handle is reported by whichever call reads it.  The
call takes the message off the stream and leaves everything else alone, and the next one reads what
follows. -/
theorem Session.event?_of_malformed {t : Session} {handle : Nat} {x : Subscription}
    {stream : ActiveStream} {fault : MessageFault} {rest : Feed}
    (hhandle : handle < t.subscriptions.length) (hx : t.get? handle = some x)
    (h : Subscriber.Malformed ⟨t.client, x⟩ stream fault rest) (n : Nat) :
    ∃ reply, t.event? handle (n + 1) = some reply ∧
      (t.item? handle (n + 1)).map (·.next) = some reply.next ∧
      (t.item? handle (n + 1)).map (·.answer) = some (.error (.unexpected (.fault fault))) ∧
      reply.answer = .error (.unexpected (.fault fault)) ∧
      reply.next.get? handle = some { x with stream := some { stream with feed := rest } } ∧
      reply.next.client.pool = t.client.pool ∧ reply.next.client.history = t.client.history ∧
      ∀ second more m e, rest = second :: more →
        second.arrival.within t.client.receiveLimit = .message m → Event.ofMessage m = .ok e →
          (reply.next.event? handle (n + 1)).map (·.answer) = some (.ok e) := by
  rcases Subscriber.event_of_malformed h n with ⟨hanswer, hleft, hpool, hhistory, hnext⟩
  rcases Subscriber.item_of_malformed h n n with ⟨hitem, hsame⟩
  have hget : (t.putBack handle (Subscriber.event (n + 1) ⟨t.client, x⟩)).next.get? handle =
      some (Subscriber.event (n + 1) ⟨t.client, x⟩).next.subscription := by
    exact (get?_set hhandle handle).trans (if_pos rfl)
  refine ⟨t.putBack handle (Subscriber.event (n + 1) ⟨t.client, x⟩), ?_, ?_, ?_, hanswer,
    hget.trans (congrArg some hleft), hpool, hhistory, ?_⟩
  · rw [event?, hx, Option.map_some]
  · rw [item?, hx, Option.map_some, Option.map_some, putBack, hsame]
    rfl
  · rw [item?, hx, Option.map_some, Option.map_some]
    exact congrArg some hitem
  · intro second more m e hrest hsecond he
    rw [event?, hget, Option.map_some, Option.map_some]
    exact congrArg some (hnext second more m e hrest hsecond he)

/-- Take a subscription that was opened in any session, with any service; and let the session go on
in any way.  As long as the subscription has not been given up, it is about the cache and the topic
it was opened for, and its position is the one behind the events that were delivered for it: behind
the last one that is an item or a gap, if there was any, and the one it was opened with otherwise.
Behind an item that is the next number on its page, behind a gap the number and the page it names.
Every request that was sent for it since then asks for that cache, that topic and the position
behind the events delivered until then, and the record leaves none of them out.  A malformed message
is reported when it is read; it takes nothing but itself off the stream, so that the slot is still
held and what follows the message is read next. -/
theorem position_follows_events {s : Session} {r : SubscribeRequest} {patience fuel handle : Nat}
    (hopened : (s.subscribe r patience).answer = .ok handle) (moves : List SessionMove) :
    let opened := (s.subscribe r patience).next
    let record := opened.record fuel handle moves
    let t := opened.run fuel moves
    (∀ x, t.get? handle = some x →
      x.cache = r.cache ∧ x.topic = r.topic ∧ x.position = r.position.behind (events record) ∧
      (∀ i, ((events record).filter fun e => e ≠ .heartbeat).getLast? = some (.item i) →
        i.number.toNat + 1 < UInt64.size →
          x.position.number.toNat = i.number.toNat + 1 ∧ x.position.page = i.page) ∧
      ∀ gap, ((events record).filter fun e => e ≠ .heartbeat).getLast? =
          some (.discontinuity gap) →
        x.position.number = gap.new ∧ x.position.page = gap.newPage) ∧
    (∀ before m later, record = before ++ .sent m :: later →
      m = (r.resumingAt (r.position.behind (events before))).toMessage) ∧
    (∀ m, m = .event handle ∨ m = .item handle → messages (t.recordOf fuel handle m) =
      (t.step fuel m).client.requestsSince t.client.history.length) ∧
    ∀ x stream fault rest, t.get? handle = some x →
      Subscriber.Malformed ⟨t.client, x⟩ stream fault rest → ∀ n, ∃ reply,
        t.event? handle (n + 1) = some reply ∧
        (t.item? handle (n + 1)).map (·.next) = some reply.next ∧
        (t.item? handle (n + 1)).map (·.answer) = some (.error (.unexpected (.fault fault))) ∧
        reply.answer = .error (.unexpected (.fault fault)) ∧
        reply.next.get? handle = some { x with stream := some { stream with feed := rest } } ∧
        reply.next.client.pool = t.client.pool ∧ reply.next.client.history = t.client.history ∧
        ∀ second more m e, rest = second :: more →
          second.arrival.within t.client.receiveLimit = .message m → Event.ofMessage m = .ok e →
            (reply.next.event? handle (n + 1)).map (·.answer) = some (.ok e) := by
  intro opened record t
  have hrun : Faithful r record ∧ t.Follows handle (r.behind record) :=
    (Session.Follows.opened hopened).run fuel moves
  refine ⟨?_, ?_, ?_, ?_⟩
  · intro x hx
    have hdue : x.request = r.behind record := hrun.2.due x hx
    have hposition : x.position = r.position.behind (events record) :=
      congrArg SubscribeRequest.position hdue
    refine ⟨congrArg SubscribeRequest.cache hdue, congrArg SubscribeRequest.topic hdue, hposition,
      ?_, ?_⟩
    · intro i hlast hnumber
      have hbehind : r.position.behind (events record) = r.position.after (.item i) := by
        rw [Position.behind, hlast]
      rw [hposition, hbehind]
      exact ⟨Position.toNat_after_item hnumber, rfl⟩
    · intro gap hlast
      have hbehind : r.position.behind (events record) = r.position.after (.discontinuity gap) := by
        rw [Position.behind, hlast]
      rw [hposition, hbehind]
      exact ⟨rfl, rfl⟩
  · intro before m later hsplit
    have hfaithful : Faithful r (before ++ .sent m :: later) := hsplit ▸ hrun.1
    exact hfaithful.sent
  · intro m hm
    exact Session.messages_recordOf hm t
  · intro x stream fault rest hx hmalformed n
    exact Session.event?_of_malformed hrun.2.known hx hmalformed n

/-- A stream that starts with a heartbeat, as every stream has to. -/
def steadyFeed (later : List DeliveryMessage) : Feed :=
  ({ kind := some .heartbeat } :: later).map fun m => ⟨0, .message m⟩

/-- A service whose first stream breaks behind one item and whose second request is refused.  Every
other stream brings a gap, an item without a value and a heartbeat. -/
def faultyService : Service where
  publish _ _ := { takes := some .zero, result := .ok () }
  subscribe k m :=
    let unavailable : Status := { code := .unavailable, message := "" }
    { takes := some .zero
      result :=
        match k with
        | 0 =>
          let item : ItemMessage :=
            { number := 7, value := some (Value.toMessage (.text "hi")), page := 3 }
          .ok (steadyFeed [{ kind := some (.item item) }] ++ [⟨0, .failed unavailable⟩])
        | 1 => .error unavailable
        | _ =>
          let gap : GapMessage := { last := m.resumeAt, new := m.resumeAt + 4, page := 4 }
          .ok (steadyFeed
            [{ kind := some (.gap gap) }, { kind := some (.item { number := 12 }) },
             { kind := some .heartbeat }]) }

/-- A session of a client of that service. -/
def faultySession : Session where
  client := { unsteadySession.client with service := faultyService }

theorem position_follows_events_faulty :
    let opened := (faultySession.subscribe ⟨"cache", "topic", {}⟩ 4).next
    let moves := [SessionMove.item 0, .event 0]
    let record := opened.record 4 0 moves
    let t := opened.run 4 moves
    let heartbeat : Signal := ⟨0, .message { kind := some .heartbeat }⟩
    (messages record).map (fun m => (m.resumeAt, m.page)) = [(8, 3), (8, 3)] ∧
    ∃ x stream, t.get? 0 = some x ∧ x.position = ⟨12, 4⟩ ∧
      x.position = Position.behind {} (events record) ∧
      Subscriber.Malformed ⟨t.client, x⟩ stream .itemWithoutValue [heartbeat] ∧
      ∃ reply, t.event? 0 4 = some reply ∧
        reply.answer = .error (.unexpected (.fault .itemWithoutValue)) ∧
        (reply.next.event? 0 4).map (·.answer) = some (.ok .heartbeat) := by
  intro opened moves record t heartbeat
  have hopened : (faultySession.subscribe ⟨"cache", "topic", {}⟩ 4).answer = .ok 0 := rfl
  have hmessages : (messages record).map (fun m => (m.resumeAt, m.page)) = [(8, 3), (8, 3)] := by
    decide +kernel
  let faulty : DeliveryMessage := { kind := some (.item { number := 12 }) }
  let first : Signal := ⟨0, .message faulty⟩
  let stream : ActiveStream := { link := 0, feed := [first, heartbeat] }
  let x : Subscription :=
    { cache := "cache", topic := "topic", position := ⟨12, 4⟩, stream := some stream }
  have hx : t.get? 0 = some x := by decide +kernel
  have hmalformed : Subscriber.Malformed ⟨t.client, x⟩ stream .itemWithoutValue [heartbeat] :=
    { connected := rfl
      linkOpen := by decide +kernel
      message := ⟨first, faulty, rfl, by decide +kernel, rfl⟩ }
  rcases position_follows_events hopened moves with ⟨hposition, -, -, hreported⟩
  rcases hreported x stream _ _ hx hmalformed 3 with
    ⟨reply, hevent, -, -, hanswer, -, -, -, hnext⟩
  have hlater := hnext heartbeat [] { kind := some .heartbeat } .heartbeat rfl
    (by decide +kernel) rfl
  exact ⟨hmessages, x, stream, hx, rfl, (hposition x hx).2.2.1, hmalformed, reply, hevent, hanswer,
    hlater⟩

end PubSub
