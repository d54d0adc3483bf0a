import PubSub.Topic.Event

/-!
# Requests

Where a subscription starts and what a publish sends.  A position of zero on page zero is the live
end of the topic; every other position resumes.
-/

namespace PubSub

/-- A place in the numbering of a topic: the number to start at, and its page. -/
structure Position where
  number : UInt64 := 0
  page : UInt64 := 0
  deriving DecidableEq, Repr

/-- Whether a position asks for items that have been sent before. -/
def Position.isResume (p : Position) : Bool := p.number != 0 || p.page != 0

/-- The position behind an event: behind an item the next number, after a gap the first number that
will be delivered. -/
def Position.after (p : Position) : Event → Position
  | .item i => { number := i.number + 1, page := i.page }
  | .discontinuity d => { number := d.new, page := d.newPage }
  | .heartbeat => p

/-- What is asked for when a stream is opened. -/
structure SubscribeRequest where
  cache : String
  topic : String
  position : Position := {}
  deriving DecidableEq, Repr

namespace SubscribeRequest

/-- The same request from another position. -/
def resumingAt (r : SubscribeRequest) (p : Position) : SubscribeRequest := { r with position := p }

/-- The request as it travels. -/
def toMessage (r : SubscribeRequest) : SubscribeMessage where
  cache := r.cache
  topic := r.topic
  resumeAt := r.position.number
  page := r.position.page

end SubscribeRequest

def publishMessage (cache topic : String) (value : Value) : PublishMessage where
  cache := cache
  topic := topic
  value := some value.toMessage

end PubSub
