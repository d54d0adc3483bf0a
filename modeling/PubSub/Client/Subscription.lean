import PubSub.Client.Client
import PubSub.Text.Quoted

/-!
# Subscriptions

A subscription delivers the events of one topic, across any number of streams.

It remembers the position behind the last event, and asks for that position whenever it opens a
stream again.  It opens one again when a stream ended cleanly, and when a stream broke, or could not
be opened, in a way that the strategy accepts.  Failures are counted from one event to the next; the
count is what the strategy gets to see as the number of the attempt.  It is kept in a word of
thirty-two bits, which can run over.
-/

namespace PubSub

/-- The subscription to a topic. -/
structure Subscription where
  cache : String
  topic : String
  /-- Where a stream that is opened now would start. -/
  position : Position
  /-- The failures since the last event, in a word that starts again at zero when it is full. -/
  failures : UInt32 := 0
  /-- The stream, unless it has ended. -/
  stream : Option ActiveStream
  deriving DecidableEq, Repr

namespace Subscription

/-- The request that opens a stream for the subscription. -/
def request (s : Subscription) : SubscribeRequest where
  cache := s.cache
  topic := s.topic
  position := s.position

/-- The diagnostic text of a subscription, given the numbers of the links. -/
def text (s : Subscription) : String :=
  Text.recordText "TopicSubscription"
    [("cache_name", Text.quoted s.cache), ("topic", Text.quoted s.topic),
     ("connected", Text.boolText s.stream.isSome),
     ("manager", Text.optionText (s.stream.map fun a => toString a.link)),
     ("resume_at", toString s.position.number.toNat),
     ("sequence_page", toString s.position.page.toNat)]

/-- The subscription after an event. -/
def deliver (s : Subscription) (e : Event) : Subscription :=
  { s with position := s.position.after e, failures := 0 }

end Subscription

/-- A client and one of its subscriptions. -/
structure Subscriber where
  client : Client
  subscription : Subscription

namespace Subscriber

/-- Ends the stream, if there is one, and gives its slot back. -/
def disconnect (s : Subscriber) : Subscriber :=
  match s.subscription.stream with
  | none => s
  | some stream =>
    { client := s.client.release stream.link
      subscription := { s.subscription with stream := none } }

/-- Counts a failure and asks the strategy about it; none if the instant by which a further attempt
would have to succeed cannot be represented. -/
def judge (s : Subscriber) (code : StatusCode) : Option Verdict × Subscriber :=
  let failures := s.subscription.failures + 1
  match Instant.after? s.client.now s.client.requestTimeout with
  | none => (none, s)
  | some overall =>
    let f : Failure := ⟨code, subscribePath, failures.toNat, overall⟩
    (some (s.client.strategy.decide s.client.now f),
     { client := s.client.record [.asked f]
       subscription := { s.subscription with failures } })

/-- What one round of waiting for an event leads to. -/
inductive Round where
  /-- The wait is over. -/
  | done (answer : Outcome Event)
  /-- Another round is needed. -/
  | again
  deriving DecidableEq

/-- The client after the sleep that precedes another stream. -/
def rested (s : Subscriber) : Client :=
  { s.client with now := s.client.clock.sleep s.client.now s.client.reconnectDelay }

/-- A round without a stream: waits a while and opens one. -/
def reopen (s : Subscriber) (fuel : Nat) : Reply Subscriber Round :=
  let opening := s.rested.openStream s.subscription.request fuel
  let s : Subscriber := { s with client := opening.next }
  let reply (round : Round) (s : Subscriber) : Reply Subscriber Round :=
    { answer := round, next := s, notices := opening.notices }
  match opening.answer with
  | .ok stream =>
    reply .again { s with subscription := { s.subscription with stream := some stream } }
  | .error e =>
    match s.judge e.code with
    | (some (.retryAfter _), s) => reply .again s
    | (some .giveUp, s) => reply (.done (.error e)) s
    | (_, s) => reply (.done .overflow) s
  | .waiting => reply (.done .waiting) s
  | .unfinished => reply (.done .unfinished) s
  | .overflow => reply (.done .overflow) s

/-- A round with a stream whose link is open: reads what arrives next. -/
def read (s : Subscriber) (stream : ActiveStream) : Reply Subscriber Round :=
  match stream.feed with
  | [] => { answer := .done .waiting, next := s }
  | first :: rest =>
    let client := { s.client with now := max s.client.now first.ready }
    let subscription := { s.subscription with stream := some { stream with feed := rest } }
    match first.arrival.within s.client.receiveLimit with
    | .message m =>
      match Event.ofMessage m with
      | .ok e =>
        { answer := .done (.ok e), next := { client, subscription := subscription.deliver e } }
      | .error fault =>
        { answer := .done (.error (.unexpected (.fault fault))), next := { client, subscription } }
    | .ended =>
      let client := client.record [.ended s.subscription.request]
      { answer := .again, next := disconnect { client, subscription } }
    | .failed status =>
      match judge { client, subscription } status.code with
      | (some (.retryAfter _), s) =>
        { answer := .again, next := s.disconnect
          notices := [.streamBroken s.subscription.topic status.code] }
      | (some .giveUp, s) => { answer := .done (.error (.service status)), next := s.disconnect }
      | (_, s) => { answer := .done .overflow, next := s.disconnect }

/-- Whether the link of a stream has been closed. -/
def linkClosed (c : Client) (stream : ActiveStream) : Bool :=
  match c.pool.links[stream.link]? with
  | some l => l.isClosed
  | none => true

/-- One round of waiting for an event.  A client or a link that was closed ends the subscription's
stream whatever is waiting on it. -/
def round (s : Subscriber) (fuel : Nat) : Reply Subscriber Round :=
  match s.subscription.stream with
  | none =>
    if s.client.closed then
      { answer := .done (.error (.transport .shuttingDown)), next := s }
    else s.reopen fuel
  | some stream =>
    if linkClosed s.client stream then
      { answer := .done (.error (.transport .shuttingDown)), next := s.disconnect }
    else s.read stream

/-- Waits for the next event, for at most `fuel` rounds and as many attempts in each. -/
def event : Nat → Subscriber → Reply Subscriber (Outcome Event)
  | 0, s => { answer := .unfinished, next := s }
  | fuel + 1, s =>
    let first := s.round fuel
    match first.answer with
    | .done answer => { answer, next := first.next, notices := first.notices }
    | .again =>
      let rest := event fuel first.next
      { rest with notices := first.notices ++ rest.notices }

/-- Waits for the next item and passes over other events, at most `fuel` of them. -/
def item (patience : Nat) : Nat → Subscriber → Reply Subscriber (Outcome Item)
  | 0, s => { answer := .unfinished, next := s }
  | fuel + 1, s =>
    let first := event patience s
    match first.answer with
    | .ok (.item i) => { answer := .ok i, next := first.next, notices := first.notices }
    | .ok _ =>
      let rest := item patience fuel first.next
      { rest with notices := first.notices ++ rest.notices }
    | .error e => { answer := .error e, next := first.next, notices := first.notices }
    | .waiting => { answer := .waiting, next := first.next, notices := first.notices }
    | .unfinished => { answer := .unfinished, next := first.next, notices := first.notices }
    | .overflow => { answer := .overflow, next := first.next, notices := first.notices }

/-- The first `n` items, up to and including the first that is not delivered. -/
def items (patience : Nat) : Nat → Subscriber → Reply Subscriber (List (Outcome Item))
  | 0, s => { answer := [], next := s }
  | n + 1, s =>
    let first := item patience patience s
    match first.answer with
    | .ok _ =>
      let rest := items patience n first.next
      { answer := first.answer :: rest.answer, next := rest.next
        notices := first.notices ++ rest.notices }
    | _ => { answer := [first.answer], next := first.next, notices := first.notices }

end Subscriber

/-- Opens a subscription. -/
def Client.subscribe (c : Client) (r : SubscribeRequest) (fuel : Nat) :
    Reply Client (Outcome Subscription) :=
  match Client.checkNames r.cache r.topic with
  | .error e => { answer := .error e, next := c }
  | .ok () =>
    let opening := c.openStream r fuel
    { opening with
      answer := opening.answer.map fun stream =>
        { cache := r.cache, topic := r.topic, position := r.position, stream := some stream } }

end PubSub
