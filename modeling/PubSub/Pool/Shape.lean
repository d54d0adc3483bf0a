import PubSub.Rpc.TransportError
import PubSub.Text.Record

/-!
# Shapes of stream pools

How many links a stream pool has and how many streams each of them carries.  A fixed pool makes all
of its links at the start; an elastic pool starts with one and adds links on demand until they carry
its budget of streams.
-/

namespace PubSub

/-- How a stream pool decides on its number of links. -/
inductive Sizing where
  | fixed (links : Nat)
  | elastic (budget : Nat)
  deriving DecidableEq, Repr

/-- The streams that one link carries unless stated otherwise. -/
def standardSlots : Nat := 100

/-- The size of a stream pool. -/
structure PoolShape where
  sizing : Sizing
  slotsPerLink : Nat := standardSlots
  deriving DecidableEq, Repr

namespace PoolShape

/-- Whether links may be added. -/
def canGrow (s : PoolShape) : Bool :=
  match s.sizing with
  | .fixed _ => false
  | .elastic _ => true

/-- The number of links at the start. -/
def initialLinks (s : PoolShape) : Nat :=
  match s.sizing with
  | .fixed links => links
  | .elastic _ => 1

/-- The largest number of links: for a budget, the least number that carries it, and at least
one. -/
def maxLinks (s : PoolShape) : Nat :=
  match s.sizing with
  | .fixed links => links
  | .elastic budget =>
    let perLink := max s.slotsPerLink 1
    max ((budget + perLink - 1) / perLink) 1

/-- A pool needs slots, and it needs links or a budget. -/
def check (s : PoolShape) : Except SetupFault Unit :=
  if s.slotsPerLink = 0 then .error .noStreamsPerLink
  else
    match s.sizing with
    | .fixed 0 => .error .noStreamLinks
    | .elastic 0 => .error .noSubscriptions
    | _ => .ok ()

/-- The diagnostic text of a shape. -/
def text (s : PoolShape) : String :=
  let sizing := match s.sizing with
    | .fixed links => Text.recordText "Static" [("channel_count", toString links)]
    | .elastic budget => Text.recordText "Dynamic" [("max_subscriptions", toString budget)]
  Text.recordText "StreamPoolConfig"
    [("sizing", sizing), ("streams_per_channel", toString s.slotsPerLink)]

end PoolShape

end PubSub
