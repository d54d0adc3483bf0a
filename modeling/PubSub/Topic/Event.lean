import PubSub.Wire.Message

/-!
# Events

What a subscriber sees: items, gaps in their numbering, and heartbeats.  A message without a kind,
an item without a value and a value without a kind are no events.
-/

namespace PubSub

/-- A delivered value with its place in the topic. -/
structure Item where
  value : Value
  number : UInt64
  page : UInt64
  publisher : Option String
  deriving DecidableEq, Repr

/-- Items between two numbers that will not be delivered. -/
structure Discontinuity where
  last : UInt64
  new : UInt64
  newPage : UInt64
  deriving DecidableEq, Repr

/-- An event of a subscription. -/
inductive Event where
  | item (i : Item)
  | discontinuity (d : Discontinuity)
  | heartbeat
  deriving DecidableEq, Repr

/-- What a message lacks to be an event. -/
inductive MessageFault where
  | valueWithoutKind
  | itemWithoutValue
  | messageWithoutKind
  deriving DecidableEq, Repr

/-- The wording of each fault. -/
def MessageFault.message : MessageFault → String
  | valueWithoutKind => "topic value has no kind"
  | itemWithoutValue => "topic item has no value"
  | messageWithoutKind => "subscription item has no kind"

def Value.ofMessage (m : ValueMessage) : Except MessageFault Value :=
  match m.kind with
  | some value => .ok value
  | none => .error .valueWithoutKind

/-- A value as it travels. -/
def Value.toMessage (v : Value) : ValueMessage := { kind := some v }

theorem Value.ofMessage_toMessage (v : Value) : Value.ofMessage v.toMessage = .ok v := rfl

/-- The item in a message.  An empty publisher means that none is known. -/
def Item.ofMessage (m : ItemMessage) : Except MessageFault Item :=
  match m.value with
  | none => .error .itemWithoutValue
  | some valueMessage =>
    match Value.ofMessage valueMessage with
    | .error fault => .error fault
    | .ok value =>
      .ok
        { value, number := m.number, page := m.page
          publisher := if m.publisher = "" then none else some m.publisher }

def Discontinuity.ofMessage (m : GapMessage) : Discontinuity where
  last := m.last
  new := m.new
  newPage := m.page

def Event.ofMessage (m : DeliveryMessage) : Except MessageFault Event :=
  match m.kind with
  | none => .error .messageWithoutKind
  | some (.item i) => (Item.ofMessage i).map .item
  | some (.gap g) => .ok (.discontinuity (.ofMessage g))
  | some .heartbeat => .ok .heartbeat

end PubSub
