import PubSub.Text.Quoted
import PubSub.Text.Record
import PubSub.Wire.Message

/-!
# Diagnostic text of deliveries

How a delivery is shown in an error message: the record with all its fields, texts in quotes and
bytes as a list of numbers.
-/

namespace PubSub

open Text

/-- The diagnostic text of a value. -/
def Value.diagnostic : Value → String
  | text s => applied "Text" (quoted s)
  | binary b => applied "Binary" (listText (b.map fun x => toString x.toNat))

/-- The diagnostic text of a value as it travels. -/
def ValueMessage.text (m : ValueMessage) : String :=
  recordText "TopicValue" [("kind", optionText (m.kind.map Value.diagnostic))]

/-- The diagnostic text of an item as it travels. -/
def ItemMessage.text (m : ItemMessage) : String :=
  recordText "TopicItem"
    [("topic_sequence_number", toString m.number.toNat),
     ("value", optionText (m.value.map ValueMessage.text)),
     ("publisher_id", quoted m.publisher),
     ("sequence_page", toString m.page.toNat)]

/-- The diagnostic text of a gap as it travels. -/
def GapMessage.text (m : GapMessage) : String :=
  recordText "Discontinuity"
    [("last_topic_sequence", toString m.last.toNat),
     ("new_topic_sequence", toString m.new.toNat),
     ("new_sequence_page", toString m.page.toNat)]

/-- The diagnostic text of a delivery. -/
def Delivery.text : Delivery → String
  | item m => applied "Item" m.text
  | gap m => applied "Discontinuity" m.text
  | heartbeat => applied "Heartbeat" "Heartbeat"

end PubSub
