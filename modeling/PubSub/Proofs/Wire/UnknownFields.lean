import PubSub.Proofs.Wire.Grammar
import PubSub.Proofs.Wire.RoundTrip
import PubSub.Topic.Event

/-!
# Unknown fields

A subscriber reads the same event whether or not a message has fields that it does not know.

Such fields may stand anywhere between the fields of a message and of the messages in it, and they
may be spelled in any way that the grammar of fields allows.  A message that becomes longer through
them is counted anew by the field that holds it, and so on outwards.  The reader first splits the
bytes into fields by the kinds of their payloads, and merging leaves out what is not declared; so it
is enough to follow the fields of one message, and the messages in it by the kind that their number
stands for.

* `MessageKind`: the messages of a subscription, with the numbers that they declare.
* `MessageKind.notMem_declared_iff`: fields under other numbers, and no others, never matter.
* `MessageKind.merge_part`: a field that holds a message matters by what is read from it.
* `Inserted`: bytes of a message with and without fields that it does not declare.
* `Inserted.readInto`: both are read alike, whatever they are merged into.
* `unknown_fields_tolerated`: the same for the messages and events of a subscription.
-/

namespace PubSub

/-! ## Kinds of messages -/

/-- The messages that come with a subscription: what is delivered, and what may be in it. -/
inductive MessageKind where
  | delivery
  | item
  | gap
  | heartbeat
  | value
  deriving DecidableEq, Repr

namespace MessageKind

/-- The numbers that a message declares. -/
def declared : MessageKind → List Nat
  | delivery => [1, 2, 3]
  | item => [1, 2, 3, 4]
  | gap => [1, 2, 3]
  | heartbeat => []
  | value => [1, 2]

/-- The message that a field with this number holds, if it is to hold one. -/
def part? : MessageKind → Nat → Option MessageKind
  | delivery, 1 => some item
  | delivery, 2 => some gap
  | delivery, 3 => some heartbeat
  | item, 2 => some value
  | _, _ => none

/-- How many levels of nesting are left to a message, where a delivery has all of them. -/
def levels : MessageKind → Nat
  | delivery => nestingLimit
  | item | gap | heartbeat => nestingLimit - 1
  | value => nestingLimit - 1 - 1

/-- The messages of a kind. -/
def Message : MessageKind → Type
  | delivery => DeliveryMessage
  | item => ItemMessage
  | gap => GapMessage
  | heartbeat => EmptyMessage
  | value => ValueMessage

/-- The message of a kind that holds nothing. -/
def empty : (k : MessageKind) → k.Message
  | delivery => ({} : DeliveryMessage)
  | item => ({} : ItemMessage)
  | gap => ({} : GapMessage)
  | heartbeat => ({} : EmptyMessage)
  | value => ({} : ValueMessage)

/-- Merges a field into a message of a kind. -/
def merge : (k : MessageKind) → k.Message → Field → Option k.Message
  | delivery => DeliveryMessage.merge
  | item => ItemMessage.merge (levels item)
  | gap => GapMessage.merge
  | heartbeat => EmptyMessage.merge
  | value => ValueMessage.merge

/-- Merges encoded bytes into a message of a kind. -/
def readInto (k : MessageKind) (m : k.Message) (bytes : Bytes) : Option k.Message :=
  mergeBytes k.merge k.levels m bytes

/-- A field that a message does not declare changes nothing in it. -/
theorem merge_of_unknown {k : MessageKind} {f : Field} (h : f.number ∉ k.declared)
    (m : k.Message) : k.merge m f = some m := by
  cases k with
  | delivery =>
    have hnumber : f.number ≠ 1 ∧ f.number ≠ 2 ∧ f.number ≠ 3 := by simpa [declared] using h
    have hmerge (d : DeliveryMessage) : DeliveryMessage.merge d f = some d := by
      simp [DeliveryMessage.merge, hnumber]
    exact hmerge m
  | item =>
    have hnumber : f.number ≠ 1 ∧ f.number ≠ 2 ∧ f.number ≠ 3 ∧ f.number ≠ 4 := by
      simpa [declared] using h
    have hmerge (i : ItemMessage) : ItemMessage.merge (levels item) i f = some i := by
      simp [ItemMessage.merge, hnumber]
    exact hmerge m
  | gap =>
    have hnumber : f.number ≠ 1 ∧ f.number ≠ 2 ∧ f.number ≠ 3 := by simpa [declared] using h
    have hmerge (g : GapMessage) : GapMessage.merge g f = some g := by
      simp [GapMessage.merge, hnumber]
    exact hmerge m
  | heartbeat => rfl
  | value =>
    have hnumber : f.number ≠ 1 ∧ f.number ≠ 2 := by simpa [declared] using h
    have hmerge (v : ValueMessage) : ValueMessage.merge v f = some v := by
      simp [ValueMessage.merge, hnumber]
    exact hmerge m

/-- A field that a message declares may not hold a group. -/
theorem merge_group {k : MessageKind} {number : Nat} (h : number ∈ k.declared) (m : k.Message)
    (bytes : Bytes) : k.merge m ⟨number, .group bytes⟩ = none := by
  cases k with
  | delivery | gap =>
    have hnumber : number = 1 ∨ number = 2 ∨ number = 3 := by simpa [declared] using h
    rcases hnumber with rfl | rfl | rfl <;> rfl
  | item =>
    have hnumber : number = 1 ∨ number = 2 ∨ number = 3 ∨ number = 4 := by
      simpa [declared] using h
    rcases hnumber with rfl | rfl | rfl | rfl <;> rfl
  | heartbeat => cases h
  | value =>
    have hnumber : number = 1 ∨ number = 2 := by simpa [declared] using h
    rcases hnumber with rfl | rfl <;> rfl

/-- The numbers that a message does not declare are just those under which no field can matter. -/
theorem notMem_declared_iff {k : MessageKind} {number : Nat} :
    number ∉ k.declared ↔ ∀ (m : k.Message) (p : Payload), k.merge m ⟨number, p⟩ = some m := by
  constructor
  · intro h m p
    exact merge_of_unknown h m
  · intro h hdeclared
    cases (merge_group hdeclared k.empty []).symm.trans (h k.empty (.group []))

/-- A field that holds a message counts by what is read from it. -/
theorem merge_part {k part : MessageKind} {number : Nat} (hpart : k.part? number = some part)
    {inner wide : Bytes} (hread : ∀ m, part.readInto m wide = part.readInto m inner)
    (m : k.Message) :
    k.merge m ⟨number, .delimited wide⟩ = k.merge m ⟨number, .delimited inner⟩ := by
  unfold part? at hpart
  split at hpart
  · cases hpart
    have hitem (i : ItemMessage) : ItemMessage.readInto (nestingLimit - 1) i wide =
        ItemMessage.readInto (nestingLimit - 1) i inner := hread i
    show DeliveryMessage.merge m ⟨1, .delimited wide⟩ = DeliveryMessage.merge m ⟨1, .delimited inner⟩
    simp [DeliveryMessage.merge, Payload.bytes?, hitem]
  · cases hpart
    have hgap (g : GapMessage) : GapMessage.readInto (nestingLimit - 1) g wide =
        GapMessage.readInto (nestingLimit - 1) g inner := hread g
    show DeliveryMessage.merge m ⟨2, .delimited wide⟩ = DeliveryMessage.merge m ⟨2, .delimited inner⟩
    simp [DeliveryMessage.merge, Payload.bytes?, hgap]
  · cases hpart
    have hempty (e : EmptyMessage) : mergeBytes EmptyMessage.merge (nestingLimit - 1) e wide =
        mergeBytes EmptyMessage.merge (nestingLimit - 1) e inner := hread e
    show DeliveryMessage.merge m ⟨3, .delimited wide⟩ = DeliveryMessage.merge m ⟨3, .delimited inner⟩
    simp [DeliveryMessage.merge, Payload.bytes?, hempty]
  · cases hpart
    have hvalue (v : ValueMessage) : ValueMessage.readInto (levels item - 1) v wide =
        ValueMessage.readInto (levels item - 1) v inner := hread v
    show ItemMessage.merge (levels item) m ⟨2, .delimited wide⟩ =
      ItemMessage.merge (levels item) m ⟨2, .delimited inner⟩
    simp [ItemMessage.merge, Payload.bytes?, hvalue]
  · cases hpart

end MessageKind

/-! ## Insertions -/

/-- Bytes of a message in which fields that the message does not declare are inserted: in front of a
field, behind the last one, or in the same way in a message that a field holds, which is then counted
anew. -/
inductive Inserted : MessageKind → Bytes → Bytes → Prop where
  | none (k : MessageKind) (bytes : Bytes) : Inserted k bytes bytes
  | insert {k : MessageKind} {f : Field} {chunk bytes wide : Bytes}
      (hfield : f.Spells k.levels chunk) (hunknown : f.number ∉ k.declared)
      (h : Inserted k bytes wide) : Inserted k bytes (chunk ++ wide)
  | keep {k : MessageKind} {f : Field} {chunk bytes wide : Bytes}
      (hfield : f.Spells k.levels chunk) (h : Inserted k bytes wide) :
      Inserted k (chunk ++ bytes) (chunk ++ wide)
  | within {k part : MessageKind} {number : Nat} {chunk wider inner wideInner bytes wide : Bytes}
      (hpart : k.part? number = some part)
      (hfield : Field.Spells k.levels ⟨number, .delimited inner⟩ chunk)
      (hwider : Field.Spells k.levels ⟨number, .delimited wideInner⟩ wider)
      (hinner : Inserted part inner wideInner) (h : Inserted k bytes wide) :
      Inserted k (chunk ++ bytes) (wider ++ wide)

namespace Inserted

variable {k : MessageKind} {bytes wide : Bytes}

/-- Whatever a message is merged into, inserted fields make no difference. -/
theorem readInto (h : Inserted k bytes wide) (m : k.Message) :
    k.readInto m wide = k.readInto m bytes := by
  induction h with
  | none => rfl
  | insert hfield hunknown h ih =>
    rw [MessageKind.readInto, mergeBytes_append _ hfield, MessageKind.merge_of_unknown hunknown,
      Option.bind_some]
    exact ih m
  | keep hfield h ih =>
    rw [MessageKind.readInto, MessageKind.readInto, mergeBytes_append _ hfield,
      mergeBytes_append _ hfield]
    exact Option.bind_congr fun m _ => ih m
  | within hpart hfield hwider hinner h ihinner ih =>
    rw [MessageKind.readInto, MessageKind.readInto, mergeBytes_append _ hfield,
      mergeBytes_append _ hwider, MessageKind.merge_part hpart ihinner]
    exact Option.bind_congr fun m _ => ih m

end Inserted

/-- A message of a subscription, with fields inserted that are not declared where they stand, is
read as the message without them: it is the same message and the same event, it lacks the same to be
an event, or neither can be read.  In particular, insertions into what is written for a message leave
its event or its fault as it is. -/
theorem unknown_fields_tolerated {bytes wide : Bytes} (h : Inserted .delivery bytes wide) :
    DeliveryMessage.read wide = DeliveryMessage.read bytes ∧
    (DeliveryMessage.read wide).map Event.ofMessage =
      (DeliveryMessage.read bytes).map Event.ofMessage ∧
    ∀ m : DeliveryMessage, bytes = m.write → bytes.length < UInt64.size →
      (DeliveryMessage.read wide).map Event.ofMessage = some (Event.ofMessage m) := by
  have hread : DeliveryMessage.read wide = DeliveryMessage.read bytes :=
    h.readInto (MessageKind.empty .delivery)
  refine ⟨hread, congrArg _ hread, ?_⟩
  rintro m rfl hlength
  rw [hread, DeliveryMessage.read_write hlength]
  rfl

/-- The fifth item of a topic, a text of one letter. -/
def fifthDelivery : DeliveryMessage where
  kind := some (.item { number := 5, value := some (Value.text "a").toMessage })

/-- What is written for it, with unknown fields: a number in front of the item, four and eight bytes
between and behind the fields of the item, and a run of bytes in front of the text.  The number and
the length of the item are spelled with a byte that adds nothing. -/
def crowdedBytes : Bytes :=
  [32, 129, 0,
   10, 152, 0, 8, 5, 45, 1, 2, 3, 4, 18, 6, 26, 1, 255, 10, 1, 97, 41, 1, 2, 3, 4, 5, 6, 7, 8]

theorem unknown_fields_tolerated_nested :
    Inserted .delivery fifthDelivery.write crowdedBytes ∧
    (DeliveryMessage.read crowdedBytes).map Event.ofMessage =
      some (.ok (.item { value := .text "a", number := 5, page := 0, publisher := none })) ∧
    Inserted .delivery [26, 0] [26, 2, 8, 1] ∧
    DeliveryMessage.read [26, 2, 8, 1] = some { kind := some .heartbeat } := by
  -- the text, the item around it, and the message around the item
  have hrun : Field.Spells MessageKind.value.levels ⟨3, .delimited [255]⟩ [26, 1, 255] :=
    .of_read (by decide)
  have hvalue : Inserted .value [10, 1, 97] ([26, 1, 255] ++ [10, 1, 97]) :=
    .insert hrun (by decide) (.none _ _)
  have hheld : Field.Spells MessageKind.item.levels ⟨2, .delimited [10, 1, 97]⟩
      [18, 3, 10, 1, 97] := .of_read (by decide)
  have hwider : Field.Spells MessageKind.item.levels ⟨2, .delimited [26, 1, 255, 10, 1, 97]⟩
      [18, 6, 26, 1, 255, 10, 1, 97] := .of_read (by decide)
  have hfour : Field.Spells MessageKind.item.levels ⟨5, .fixed32 [1, 2, 3, 4]⟩
      [45, 1, 2, 3, 4] := .of_read (by decide)
  have hlong : Field.Spells MessageKind.item.levels ⟨5, .fixed64 [1, 2, 3, 4, 5, 6, 7, 8]⟩
      [41, 1, 2, 3, 4, 5, 6, 7, 8] := .of_read (by decide)
  have hnumber : Field.Spells MessageKind.item.levels ⟨1, .varint 5⟩ [8, 5] :=
    .of_read (by decide)
  have hbehind : Inserted .item ([18, 3, 10, 1, 97] ++ []) ([18, 6, 26, 1, 255, 10, 1, 97] ++
      ([41, 1, 2, 3, 4, 5, 6, 7, 8] ++ [])) :=
    .within rfl hheld hwider hvalue (.insert hlong (by decide) (.none _ _))
  have hitem : Inserted .item ([8, 5] ++ ([18, 3, 10, 1, 97] ++ [])) ([8, 5] ++
      ([45, 1, 2, 3, 4] ++ ([18, 6, 26, 1, 255, 10, 1, 97] ++
        ([41, 1, 2, 3, 4, 5, 6, 7, 8] ++ [])))) :=
    .keep hnumber (.insert hfour (by decide) hbehind)
  have hone : Field.Spells MessageKind.delivery.levels ⟨4, .varint 1⟩ [32, 129, 0] :=
    .of_read (by decide)
  have hwhole : Field.Spells MessageKind.delivery.levels
      ⟨1, .delimited [8, 5, 18, 3, 10, 1, 97]⟩ [10, 7, 8, 5, 18, 3, 10, 1, 97] :=
    .of_read (by decide)
  have hcounted : Field.Spells MessageKind.delivery.levels
      ⟨1, .delimited
        [8, 5, 45, 1, 2, 3, 4, 18, 6, 26, 1, 255, 10, 1, 97, 41, 1, 2, 3, 4, 5, 6, 7, 8]⟩
      [10, 152, 0, 8, 5, 45, 1, 2, 3, 4, 18, 6, 26, 1, 255, 10, 1, 97, 41, 1, 2, 3, 4, 5, 6, 7, 8] :=
    .of_read (by decide)
  have hcrowded : Inserted .delivery fifthDelivery.write crowdedBytes :=
    .insert hone (by decide) (.within rfl hwhole hcounted hitem (.none _ []))
  -- a heartbeat, which declares no field at all
  have hinside : Field.Spells MessageKind.heartbeat.levels ⟨1, .varint 1⟩ [8, 1] :=
    .of_read (by decide)
  have hempty : Field.Spells MessageKind.delivery.levels ⟨3, .delimited []⟩ [26, 0] :=
    .of_read (by decide)
  have hfull : Field.Spells MessageKind.delivery.levels ⟨3, .delimited [8, 1]⟩ [26, 2, 8, 1] :=
    .of_read (by decide)
  have hbeat : Inserted .delivery [26, 0] [26, 2, 8, 1] :=
    .within rfl hempty hfull (.insert hinside (by decide) (.none _ [])) (.none _ [])
  have hread : DeliveryMessage.read [26, 0] = some { kind := some .heartbeat } := by decide
  refine ⟨hcrowded, ?_, hbeat, (unknown_fields_tolerated hbeat).1.trans hread⟩
  exact (unknown_fields_tolerated hcrowded).2.2 fifthDelivery rfl (by decide)

end PubSub
