import PubSub.Retry.Call
import PubSub.Wire.Message

/-!
# Services

The far side of a client.  A service answers the `k`-th publish and the `k`-th subscribe, counted
from zero; an answer takes time, and it may never come.

A successful subscribe opens a feed: what will arrive on the stream, and when.  A feed that is used
up stays open and is silent for ever.
-/

namespace PubSub

/-- What can arrive on a stream. -/
inductive Arrival where
  | message (m : DeliveryMessage)
  | ended
  | failed (s : Status)
  deriving DecidableEq, Repr

/-- An arrival and the instant from which on it can be read. -/
structure Signal where
  ready : Instant
  arrival : Arrival
  deriving DecidableEq, Repr

/-- What will arrive on a stream, in this order. -/
abbrev Feed := List Signal

/-- The far side of a client. -/
structure Service where
  publish : Nat → PublishMessage → Work Unit
  subscribe : Nat → SubscribeMessage → Work Feed
  /-- Whether requests reach the service; without that it never learns of them. -/
  reachable : Bool := true

/-- The failure of a stream on which a message of `found` bytes came although at most `limit` are
allowed. -/
def tooLarge (found limit : Nat) : Status where
  code := .outOfRange
  message :=
    "Error, decoded message length too large: found " ++ toString found
      ++ " bytes, the limit is: " ++ toString limit ++ " bytes"

/-- What a reader with a limit for messages sees of an arrival. -/
def Arrival.within (limit : Nat) : Arrival → Arrival
  | message m =>
    if m.write.length ≤ limit then message m else failed (tooLarge m.write.length limit)
  | other => other

end PubSub
