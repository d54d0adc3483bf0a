import PubSub.Client.Subscription

/-!
# Sessions

A client with all of its subscriptions, so that whole runs can be described.  Subscriptions have
handles, numbered from zero in the order in which they were opened; a handle is empty once its
subscription was dropped.
-/

namespace PubSub

/-- A client and its subscriptions. -/
structure Session where
  client : Client
  subscriptions : List (Option Subscription) := []

/-- What can be done in a session. -/
inductive SessionMove where
  | publish (cache topic : String) (value : Value)
  | subscribe (r : SubscribeRequest)
  | event (handle : Nat)
  | item (handle : Nat)
  | drop (handle : Nat)
  | closeLink (link : Nat)
  | close

namespace Session

def get? (s : Session) (handle : Nat) : Option Subscription := (s.subscriptions[handle]?).join

def existing (s : Session) : List Subscription := s.subscriptions.filterMap id

/-- The subscriptions that have a stream. -/
def connected (s : Session) : List Subscription :=
  s.existing.filter fun x => x.stream.isSome

def publish (s : Session) (cache topic : String) (value : Value) (fuel : Nat) :
    Reply Session (Outcome Unit) :=
  let r := s.client.publish cache topic value fuel
  { r with next := { s with client := r.next } }

/-- Opens a subscription and returns its handle. -/
def subscribe (s : Session) (r : SubscribeRequest) (fuel : Nat) : Reply Session (Outcome Nat) :=
  let opening := s.client.subscribe r fuel
  match opening.answer with
  | .ok subscription =>
    { answer := .ok s.subscriptions.length
      next :=
        { client := opening.next, subscriptions := s.subscriptions ++ [some subscription] }
      notices := opening.notices }
  | other =>
    { answer := other.map fun _ => s.subscriptions.length
      next := { s with client := opening.next }, notices := opening.notices }

/-- Puts the subscriber that an operation returned back under its handle. -/
def putBack {α : Type} (s : Session) (handle : Nat) (r : Reply Subscriber α) : Reply Session α :=
  { r with
    next :=
      { client := r.next.client
        subscriptions := s.subscriptions.set handle (some r.next.subscription) } }

/-- Waits for the next event of a subscription; none if there is no such subscription. -/
def event? (s : Session) (handle fuel : Nat) : Option (Reply Session (Outcome Event)) :=
  (s.get? handle).map fun x => s.putBack handle (Subscriber.event fuel ⟨s.client, x⟩)

/-- Waits for the next item of a subscription; none if there is no such subscription. -/
def item? (s : Session) (handle fuel : Nat) : Option (Reply Session (Outcome Item)) :=
  (s.get? handle).map fun x => s.putBack handle (Subscriber.item fuel fuel ⟨s.client, x⟩)

/-- Gives up a subscription; says whether it existed. -/
def drop (s : Session) (handle : Nat) : Bool × Session :=
  match s.get? handle with
  | none => (false, s)
  | some x =>
    let left := Subscriber.disconnect ⟨s.client, x⟩
    (true, { client := left.client, subscriptions := s.subscriptions.set handle none })

/-- Takes the first `n` items of a subscription and gives it up; none if there is no such
subscription. -/
def stream? (s : Session) (handle n fuel : Nat) : Option (Reply Session (List (Outcome Item))) :=
  (s.get? handle).map fun x =>
    let taken := s.putBack handle (Subscriber.items fuel n ⟨s.client, x⟩)
    { taken with next := (taken.next.drop handle).2 }

/-- Closes the link of the stream pool at a place. -/
def closeLink (s : Session) (link : Nat) : Reply Session (Except TransportError Unit) :=
  let closing := s.client.pool.closeLink link
  { closing with next := { s with client := { s.client with pool := closing.next } } }

/-- Closes the client. -/
def close (s : Session) : Reply Session Unit :=
  let closing := s.client.close
  { closing with next := { s with client := closing.next } }

/-- Closes the client while a caller waits for an event of a subscription.  A caller that goes on
waiting is woken by that. -/
def closeDuringEvent? (s : Session) (handle fuel : Nat) :
    Option (Reply Session (Outcome Event)) := do
  let waited ← s.event? handle fuel
  let closing := waited.next.close
  match waited.answer with
  | .waiting => closing.next.event? handle fuel
  | _ => some { waited with next := closing.next }

/-- The session after a move. -/
def step (fuel : Nat) (s : Session) : SessionMove → Session
  | .publish cache topic value => (s.publish cache topic value fuel).next
  | .subscribe r => (s.subscribe r fuel).next
  | .event handle => ((s.event? handle fuel).map (·.next)).getD s
  | .item handle => ((s.item? handle fuel).map (·.next)).getD s
  | .drop handle => (s.drop handle).2
  | .closeLink link => (s.closeLink link).next
  | .close => s.close.next

/-- The session after a run of moves. -/
def run (fuel : Nat) (s : Session) (moves : List SessionMove) : Session :=
  moves.foldl (step fuel) s

end Session

end PubSub
