import PubSub.Client.Service
import PubSub.Pool.Rotation
import PubSub.Pool.SlotPool
import PubSub.Rpc.CallTimeout
import PubSub.Rpc.Identity
import PubSub.Settings.ClientSettings
import PubSub.Topic.Request
import PubSub.Topic.TopicError

/-!
# Clients

A client publishes values and opens streams of deliveries.

Publishes go over a rotation of links.  Every stream holds a slot of the stream pool from before
its request is sent until it ends.  A new stream has to begin with a heartbeat, which is taken off
it, and that has to come by a deadline fixed before the first request; retries do not extend it.

The client is described together with its far side, its clock, and the history of what it did, so
that each operation is a function from the state before to the answer and the state after.
-/

namespace PubSub

/-- What comes of an operation. -/
inductive Outcome (α : Type) where
  | ok (a : α)
  | error (e : TopicError)
  /-- The operation goes on waiting for ever. -/
  | waiting
  /-- The operation was cut off before it ended. -/
  | unfinished
  /-- An instant or a delay could not be represented. -/
  | overflow
  deriving DecidableEq

namespace Outcome

variable {α β : Type}

/-- Changes the answer of an operation that succeeded. -/
def map (f : α → β) : Outcome α → Outcome β
  | ok a => ok (f a)
  | error e => error e
  | waiting => waiting
  | unfinished => unfinished
  | overflow => overflow

end Outcome

/-- What happened between a client and its service. -/
inductive Act where
  /-- A request to publish was sent. -/
  | published (m : PublishMessage) (metadata : Metadata) (timeout : Option String)
  /-- A slot was asked for, to open a stream. -/
  | opened (r : SubscribeRequest)
  /-- A request to subscribe was sent. -/
  | subscribed (m : SubscribeMessage) (metadata : Metadata)
  /-- A stream was read to its clean end. -/
  | ended (r : SubscribeRequest)
  /-- The strategy was asked about a failure of a subscription. -/
  | asked (f : Failure)

/-- A client and all that surrounds it. -/
structure Client where
  identity : Identity
  policy : Policy
  requestTimeout : Duration
  reconnectDelay : Duration
  receiveLimit : Nat
  pool : SlotPool
  calls : Rotation
  service : Service
  /-- What keeps the deadlines and the delays. -/
  clock : Clock
  /-- The draws of the strategy, given the length of the history. -/
  chance : Nat → Failure → Draw
  now : Instant := 0
  history : List Act := []

/-- A stream and the place of the link whose slot it holds. -/
structure ActiveStream where
  link : Nat
  feed : Feed
  deriving DecidableEq, Repr

/-- A dialer that opens channels to an address. -/
def Dialer.ofAddress (address : String) (trustedRoots : Bool) : Dialer where
  refusal _ _ :=
    match checkChannel address trustedRoots with
    | .ok () => none
    | .error e => some { error := e, notices := [channelNotice address e] }
  closeFault _ := none

/-- The kind of client that is told to the service. -/
def clientKind : String := "topic"

namespace Client

/-! ## Making and closing -/

/-- Makes a client.  Nothing is sent.  If the stream pool cannot be made, the rotation is closed
again. -/
def connect (s : ClientSettings) (trustedRoots : Bool) (service : Service)
    (chance : Nat → Failure → Draw) (clock : Clock := .coarse) :
    Except TopicError Client × List Notice :=
  match Identity.of s.credentials.token clientKind with
  | .error _ => (.error (.invalidArgument .invalidToken), [])
  | .ok identity =>
    let dialer := Dialer.ofAddress s.credentials.cacheEndpoint trustedRoots
    let calls := Rotation.build s.callLinks.toNat dialer
    match calls.answer with
    | .error e => (.error (.transport e), calls.notices)
    | .ok rotation =>
      let pool := SlotPool.build s.poolShape true dialer
      match pool.answer with
      | .error e =>
        (.error (.transport e), calls.notices ++ pool.notices ++ rotation.close.notices)
      | .ok slots =>
        (.ok
          { identity, policy := s.policy.policy, requestTimeout := s.requestTimeout
            reconnectDelay := s.reconnectDelay, receiveLimit := s.channel.receiveLimit
            pool := slots, calls := rotation, service, clock, chance },
         calls.notices ++ pool.notices)

/-- The number of streams. -/
def active (c : Client) : Nat := c.pool.active

/-- Whether the client has been closed. -/
def closed (c : Client) : Bool := c.pool.closed

/-- Closes both sets of links.  Open streams end when they are read next. -/
def close (c : Client) : Reply Client Unit :=
  let pool := c.pool.close
  let calls := c.calls.close
  { answer := ()
    next := { c with pool := pool.next, calls := calls.next }
    notices := pool.notices ++ calls.notices }

/-! ## Requests -/

/-- The strategy with the draws of the present moment. -/
def strategy (c : Client) : Strategy := c.policy.strategy (c.chance c.history.length)

/-- Who makes the client's calls. -/
def caller (c : Client) : Caller where
  strategy := some c.strategy
  timeout := c.requestTimeout
  clock := c.clock

/-- The metadata of every request. -/
def metadata (c : Client) : Metadata := c.identity.attach {}

/-- The number of requests to publish that were sent. -/
def publishCount (c : Client) : Nat :=
  (c.history.filter fun | .published .. => true | _ => false).length

/-- The number of requests to subscribe that were sent. -/
def subscribeCount (c : Client) : Nat :=
  (c.history.filter fun | .subscribed .. => true | _ => false).length

/-- The history as far as the service knows it: nothing, if it cannot be reached. -/
def received (c : Client) : List Act := if c.service.reachable then c.history else []

/-- Adds to the history. -/
def record (c : Client) (acts : List Act) : Client := { c with history := c.history ++ acts }

def serviceError (s : Status) : TopicError := .service s

/-- What is reported about a status of the service: links keep their own count of streams, so a
service that lacks resources means the limit of the account. -/
def serviceNotices (s : Status) : List Notice :=
  if s.code = .resourceExhausted then [.accountLimit s.message] else []

/-- The names have to be more than white space. -/
def checkNames (cache topic : String) : Except TopicError Unit :=
  if Text.allBlank cache then .error (.invalidArgument .blankCache)
  else if Text.allBlank topic then .error (.invalidArgument .blankTopic)
  else .ok ()

def publish (c : Client) (cache topic : String) (value : Value) (fuel : Nat) :
    Reply Client (Outcome Unit) :=
  match checkNames cache topic with
  | .error e => { answer := .error e, next := c }
  | .ok () =>
    let (connection, calls) := c.calls.use
    let c := { c with calls }
    match connection with
    | .error e => { answer := .error (.transport e), next := c }
    | .ok _ =>
      match c.requestTimeout.callTimeout? with
      | none => { answer := .overflow, next := c }
      | some _ =>
        let m := publishMessage cache topic value
        let run := c.caller.call publishPath none
          (fun a => c.service.publish (c.publishCount + a.number - 1) m) c.now fuel
        let sent := run.tries.map fun t =>
          Act.published m c.metadata
            ((Duration.ofNanos? (t.attempt.remaining t.started)).bind Duration.callTimeout?)
        let c := { c.record sent with now := run.stopped }
        match run.ending with
        | .overflow => { answer := .overflow, next := c }
        | .unfinished => { answer := .unfinished, next := c }
        | .returned (.ok ()) => { answer := .ok (), next := c }
        | .returned (.error s) =>
          { answer := .error (serviceError s), next := c, notices := serviceNotices s }

/-! ## Opening streams -/

/-- Gives the slot of a stream back. -/
def release (c : Client) (link : Nat) : Client := { c with pool := c.pool.release link }

/-- Reads the first message of a new stream, which has to be a heartbeat and to come before the
timer for a deadline rings. -/
def awaitHeartbeat (c : Client) (link : Nat) (deadline : Instant) (feed : Feed) :
    Reply Client (Outcome ActiveStream) :=
  let ring := c.clock.ring deadline
  let refuse (now : Instant) (e : TopicError) (notices : List Notice) :
      Reply Client (Outcome ActiveStream) :=
    { answer := .error e, next := { c.release link with now }, notices }
  match feed with
  | [] => refuse (max c.now ring) (.timeout .noFirstMessage) []
  | first :: rest =>
    if c.now < first.ready ∧ ring < first.ready then
      refuse (max c.now ring) (.timeout .noFirstMessage) []
    else
      let now := max c.now first.ready
      match first.arrival.within c.receiveLimit with
      | .message { kind := some .heartbeat } =>
        { answer := .ok { link, feed := rest }, next := { c with now } }
      | .message { kind := some other } => refuse now (.unexpected (.notHeartbeat other)) []
      | .message { kind := none } | .ended => refuse now (.unexpected .noHeartbeat) []
      | .failed s => refuse now (serviceError s) (serviceNotices s)

/-- The error for a status with which a subscribe ended. -/
def subscribeError (s : Status) : TopicError :=
  if s.code = .deadlineExceeded then .timeout (.notEstablished s.message) else serviceError s

/-- Sends the request for a stream whose slot is held, and waits for its heartbeat. -/
def openOn (c : Client) (link : Nat) (r : SubscribeRequest) (fuel : Nat) :
    Reply Client (Outcome ActiveStream) :=
  match Instant.after? c.now c.requestTimeout with
  | none => { answer := .overflow, next := c.release link }
  | some deadline =>
    let run := c.caller.call subscribePath (some deadline)
      (fun a => c.service.subscribe (c.subscribeCount + a.number - 1) r.toMessage) c.now fuel
    let sent := run.tries.map fun _ => Act.subscribed r.toMessage c.metadata
    let c := { c.record sent with now := run.stopped }
    match run.ending with
    | .overflow => { answer := .overflow, next := c.release link }
    | .unfinished => { answer := .unfinished, next := c.release link }
    | .returned (.error s) =>
      { answer := .error (subscribeError s), next := c.release link
        notices := if s.code = .deadlineExceeded then [] else serviceNotices s }
    | .returned (.ok feed) => c.awaitHeartbeat link deadline feed

/-- Claims a slot, opens a stream on its link and waits for the heartbeat.  The slot is given back
unless the stream is open in the end. -/
def openStream (c : Client) (r : SubscribeRequest) (fuel : Nat) :
    Reply Client (Outcome ActiveStream) :=
  let claimed := c.pool.claim
  let c := { c with pool := claimed.next }.record [.opened r]
  match claimed.answer with
  | .error e => { answer := .error (.transport e), next := c, notices := claimed.notices }
  | .ok link =>
    match (c.pool.links[link]?).map Link.connection? with
    | some (.ok _) =>
      let opening := c.openOn link r fuel
      { opening with notices := claimed.notices ++ opening.notices }
    | _ =>
      { answer := .error (.transport .connectionClosed), next := c.release link
        notices := claimed.notices }

end Client

end PubSub
