import PubSub.Proofs.Wire.Framing
import PubSub.Topic.Request

/-!
# Round trips

Messages that were written are read back as they were.

What is left out when a message is written is what the empty message has, and what is chosen among
several alternatives is never left out, however empty it is.  So merging the written fields into
the empty message restores one part after another.  A nested message is restored in the same way
from the bytes of its field.

* `Field.foldlM_ofNumber`, `Field.foldlM_ofText`: a part that may have been left out is restored.
* `ValueMessage.read_write`, `ItemMessage.read_write`, `GapMessage.read_write`: nested messages are
  restored at any depth.
* `sent_is_received`: what is published, asked for and delivered arrives unchanged.

Lengths are numbers of sixty-four bits, so all of this is about messages whose bytes such a number
can count; nothing longer can be held in memory.
-/

namespace PubSub

/-! ## Parts of messages -/

namespace Payload

theorem number?_toNat (n : UInt64) : (varint n.toNat).number? = some n := by
  simp [number?]

theorem text?_utf8Bytes (s : String) : (delimited (utf8Bytes s)).text? = some s :=
  ofUtf8Bytes?_utf8Bytes s

end Payload

namespace Field

section Parts

variable {α : Type} {merge : α → Field → Option α} {m m' : α} {number : Nat}

/-- A number is restored whether or not it was left out. -/
theorem foldlM_ofNumber {n : UInt64} (hzero : n = 0 → m = m')
    (hmerge : merge m ⟨number, .varint n.toNat⟩ = some m') :
    (ofNumber number n).foldlM merge m = some m' := by
  unfold ofNumber
  split
  · rename_i hn
    exact congrArg some (hzero hn)
  · simp [hmerge]

/-- A text is restored whether or not it was left out. -/
theorem foldlM_ofText {s : String} (hempty : s = "" → m = m')
    (hmerge : merge m ⟨number, .delimited (utf8Bytes s)⟩ = some m') :
    (ofText number s).foldlM merge m = some m' := by
  unfold ofText
  split
  · rename_i hs
    exact congrArg some (hempty hs)
  · simp [hmerge]

/-- A nested message is restored whether or not it is present. -/
theorem foldlM_nested {β : Type} {write : β → Bytes} {part : Option β}
    (hnone : part = none → m = m')
    (hmerge : ∀ v, part = some v → merge m ⟨number, .delimited (write v)⟩ = some m') :
    (part.map fun v => (⟨number, .delimited (write v)⟩ : Field)).toList.foldlM merge m =
      some m' := by
  cases part with
  | none => exact congrArg some (hnone rfl)
  | some v => simp [hmerge v rfl]

end Parts

section Plain

variable {number : Nat} (hpos : 1 ≤ number) (hmarked : number * 8 + 7 < UInt32.size)

include hpos hmarked

theorem plain_delimited (bytes : Bytes) : Plain ⟨number, .delimited bytes⟩ :=
  ⟨hpos, hmarked, Or.inr ⟨bytes, rfl⟩⟩

theorem plain_ofNumber (n : UInt64) : ∀ f ∈ ofNumber number n, f.Plain := by
  intro f hf
  unfold ofNumber at hf
  split at hf
  · cases hf
  · rw [List.mem_singleton.1 hf]
    exact ⟨hpos, hmarked, Or.inl ⟨n, rfl⟩⟩

theorem plain_ofText (s : String) : ∀ f ∈ ofText number s, f.Plain := by
  intro f hf
  unfold ofText at hf
  split at hf
  · cases hf
  · rw [List.mem_singleton.1 hf]
    exact plain_delimited hpos hmarked _

theorem plain_nested {β : Type} (write : β → Bytes) (part : Option β) :
    ∀ f ∈ (part.map fun v => (⟨number, .delimited (write v)⟩ : Field)).toList, f.Plain := by
  intro f hf
  cases part with
  | none => cases hf
  | some v =>
    rw [List.mem_singleton.1 hf]
    exact plain_delimited hpos hmarked _

end Plain

theorem plain_append {fs gs : List Field} (hfs : ∀ f ∈ fs, f.Plain) (hgs : ∀ f ∈ gs, f.Plain) :
    ∀ f ∈ fs ++ gs, f.Plain := by
  intro f hf
  rcases List.mem_append.1 hf with hf | hf
  · exact hfs f hf
  · exact hgs f hf

end Field

/-- Plain fields are merged as they were written. -/
theorem mergeBytes_of_plain {α : Type} (merge : α → Field → Option α) (levels : Nat) (start : α)
    {fields : List Field} (h : ∀ f ∈ fields, f.Plain)
    (hlength : (writeFields fields).length < UInt64.size) :
    mergeBytes merge levels start (writeFields fields) = fields.foldlM merge start :=
  mergeBytes_writeFields merge levels start (Field.framed_of_plain h hlength)

/-! ## Values -/

namespace ValueMessage

theorem plain_fields (m : ValueMessage) : ∀ f ∈ m.fields, f.Plain := by
  rcases m with ⟨_ | s | bytes⟩
  · intro f hf
    cases hf
  · intro f hf
    rw [List.mem_singleton.1 hf]
    exact Field.plain_delimited (by decide) (by decide) _
  · intro f hf
    rw [List.mem_singleton.1 hf]
    exact Field.plain_delimited (by decide) (by decide) _

/-- A value is restored at any depth.  The kind of a value is written even if it is empty. -/
theorem read_write (levels : Nat) {m : ValueMessage} (h : m.write.length < UInt64.size) :
    readInto levels {} m.write = some m := by
  refine (mergeBytes_of_plain merge levels {} m.plain_fields h).trans ?_
  rcases m with ⟨_ | s | bytes⟩
  · rfl
  · simp [fields, merge, Payload.text?_utf8Bytes]
  · simp [fields, merge, Payload.bytes?]

end ValueMessage

/-! ## Requests -/

namespace PublishMessage

theorem plain_fields (m : PublishMessage) : ∀ f ∈ m.fields, f.Plain :=
  Field.plain_append
    (Field.plain_append (Field.plain_ofText (by decide) (by decide) _)
      (Field.plain_ofText (by decide) (by decide) _))
    (Field.plain_nested (by decide) (by decide) _ _)

theorem read_write {m : PublishMessage} (h : m.write.length < UInt64.size) :
    read m.write = some m := by
  refine (mergeBytes_of_plain merge nestingLimit {} m.plain_fields h).trans ?_
  have hcache : (Field.ofText 1 m.cache).foldlM merge {} = some { cache := m.cache } := by
    apply Field.foldlM_ofText
    · intro hempty
      rw [hempty]
    · simp [merge, Payload.text?_utf8Bytes]
  have htopic : (Field.ofText 2 m.topic).foldlM merge { cache := m.cache } =
      some { cache := m.cache, topic := m.topic } := by
    apply Field.foldlM_ofText
    · intro hempty
      rw [hempty]
    · simp [merge, Payload.text?_utf8Bytes]
  have hvalue : (m.value.map fun v => (⟨3, .delimited v.write⟩ : Field)).toList.foldlM merge
      { cache := m.cache, topic := m.topic } = some m := by
    apply Field.foldlM_nested
    · intro hnone
      cases m
      cases hnone
      rfl
    · intro v hv
      -- the bytes of the value are among those of the request
      have hmem : (⟨3, .delimited v.write⟩ : Field) ∈ m.fields := by
        simp [fields, hv]
      have hread := ValueMessage.read_write (nestingLimit - 1)
        (Nat.lt_of_le_of_lt (length_le_of_mem hmem) h)
      cases m
      cases hv
      simp [merge, Payload.bytes?, hread]
  rw [fields, List.foldlM_append, List.foldlM_append, hcache]
  simp only [Option.bind_eq_bind, Option.bind_some, htopic, hvalue]

end PublishMessage

namespace SubscribeMessage

theorem plain_fields (m : SubscribeMessage) : ∀ f ∈ m.fields, f.Plain :=
  Field.plain_append
    (Field.plain_append
      (Field.plain_append (Field.plain_ofText (by decide) (by decide) _)
        (Field.plain_ofText (by decide) (by decide) _))
      (Field.plain_ofNumber (by decide) (by decide) _))
    (Field.plain_ofNumber (by decide) (by decide) _)

theorem read_write {m : SubscribeMessage} (h : m.write.length < UInt64.size) :
    read m.write = some m := by
  refine (mergeBytes_of_plain merge nestingLimit {} m.plain_fields h).trans ?_
  have hcache : (Field.ofText 1 m.cache).foldlM merge {} = some { cache := m.cache } := by
    apply Field.foldlM_ofText
    · intro hempty
      rw [hempty]
    · simp [merge, Payload.text?_utf8Bytes]
  have htopic : (Field.ofText 2 m.topic).foldlM merge { cache := m.cache } =
      some { cache := m.cache, topic := m.topic } := by
    apply Field.foldlM_ofText
    · intro hempty
      rw [hempty]
    · simp [merge, Payload.text?_utf8Bytes]
  have hresume : (Field.ofNumber 3 m.resumeAt).foldlM merge
      { cache := m.cache, topic := m.topic } =
        some { cache := m.cache, topic := m.topic, resumeAt := m.resumeAt } := by
    apply Field.foldlM_ofNumber
    · intro hzero
      rw [hzero]
    · simp [merge, Payload.number?_toNat]
  have hpage : (Field.ofNumber 4 m.page).foldlM merge
      { cache := m.cache, topic := m.topic, resumeAt := m.resumeAt } = some m := by
    apply Field.foldlM_ofNumber
    · intro hzero
      cases m
      cases hzero
      rfl
    · simp [merge, Payload.number?_toNat]
  rw [fields, List.foldlM_append, List.foldlM_append, List.foldlM_append, hcache]
  simp only [Option.bind_eq_bind, Option.bind_some, htopic, hresume, hpage]

end SubscribeMessage

/-! ## Deliveries -/

namespace ItemMessage

theorem plain_fields (m : ItemMessage) : ∀ f ∈ m.fields, f.Plain :=
  Field.plain_append
    (Field.plain_append
      (Field.plain_append (Field.plain_ofNumber (by decide) (by decide) _)
        (Field.plain_nested (by decide) (by decide) _ _))
      (Field.plain_ofText (by decide) (by decide) _))
    (Field.plain_ofNumber (by decide) (by decide) _)

theorem read_write (levels : Nat) {m : ItemMessage} (h : m.write.length < UInt64.size) :
    readInto levels {} m.write = some m := by
  refine (mergeBytes_of_plain (merge levels) levels {} m.plain_fields h).trans ?_
  have hnumber : (Field.ofNumber 1 m.number).foldlM (merge levels) {} =
      some { number := m.number } := by
    apply Field.foldlM_ofNumber
    · intro hzero
      rw [hzero]
    · simp [merge, Payload.number?_toNat]
  have hvalue : (m.value.map fun v => (⟨2, .delimited v.write⟩ : Field)).toList.foldlM
      (merge levels) { number := m.number } =
        some { number := m.number, value := m.value } := by
    apply Field.foldlM_nested
    · intro hnone
      rw [hnone]
    · intro v hv
      have hmem : (⟨2, .delimited v.write⟩ : Field) ∈ m.fields := by
        simp [fields, hv]
      have hread := ValueMessage.read_write (levels - 1)
        (Nat.lt_of_le_of_lt (length_le_of_mem hmem) h)
      simp [merge, Payload.bytes?, hread, hv]
  have hpublisher : (Field.ofText 3 m.publisher).foldlM (merge levels)
      { number := m.number, value := m.value } =
        some { number := m.number, value := m.value, publisher := m.publisher } := by
    apply Field.foldlM_ofText
    · intro hempty
      rw [hempty]
    · simp [merge, Payload.text?_utf8Bytes]
  have hpage : (Field.ofNumber 4 m.page).foldlM (merge levels)
      { number := m.number, value := m.value, publisher := m.publisher } = some m := by
    apply Field.foldlM_ofNumber
    · intro hzero
      cases m
      cases hzero
      rfl
    · simp [merge, Payload.number?_toNat]
  rw [fields, List.foldlM_append, List.foldlM_append, List.foldlM_append, hnumber]
  simp only [Option.bind_eq_bind, Option.bind_some, hvalue, hpublisher, hpage]

end ItemMessage

namespace GapMessage

theorem plain_fields (m : GapMessage) : ∀ f ∈ m.fields, f.Plain :=
  Field.plain_append
    (Field.plain_append (Field.plain_ofNumber (by decide) (by decide) _)
      (Field.plain_ofNumber (by decide) (by decide) _))
    (Field.plain_ofNumber (by decide) (by decide) _)

theorem read_write (levels : Nat) {m : GapMessage} (h : m.write.length < UInt64.size) :
    readInto levels {} m.write = some m := by
  refine (mergeBytes_of_plain merge levels {} m.plain_fields h).trans ?_
  have hlast : (Field.ofNumber 1 m.last).foldlM merge {} = some { last := m.last } := by
    apply Field.foldlM_ofNumber
    · intro hzero
      rw [hzero]
    · simp [merge, Payload.number?_toNat]
  have hnew : (Field.ofNumber 2 m.new).foldlM merge { last := m.last } =
      some { last := m.last, new := m.new } := by
    apply Field.foldlM_ofNumber
    · intro hzero
      rw [hzero]
    · simp [merge, Payload.number?_toNat]
  have hpage : (Field.ofNumber 3 m.page).foldlM merge { last := m.last, new := m.new } =
      some m := by
    apply Field.foldlM_ofNumber
    · intro hzero
      cases m
      cases hzero
      rfl
    · simp [merge, Payload.number?_toNat]
  rw [fields, List.foldlM_append, List.foldlM_append, hlast]
  simp only [Option.bind_eq_bind, Option.bind_some, hnew, hpage]

end GapMessage

namespace DeliveryMessage

theorem plain_fields (m : DeliveryMessage) : ∀ f ∈ m.fields, f.Plain := by
  intro f hf
  rcases m with ⟨_ | kind⟩
  · cases hf
  · rw [List.mem_singleton.1 hf]
    cases kind with
    | item i => exact Field.plain_delimited (by decide) (by decide) _
    | gap g => exact Field.plain_delimited (by decide) (by decide) _
    | heartbeat => exact Field.plain_delimited (by decide) (by decide) _

/-- A delivery is restored with its kind, which is written even if the message in it is empty. -/
theorem read_write {m : DeliveryMessage} (h : m.write.length < UInt64.size) :
    read m.write = some m := by
  refine (mergeBytes_of_plain merge nestingLimit {} m.plain_fields h).trans ?_
  rcases m with ⟨_ | kind⟩
  · rfl
  -- the bytes of the message inside are among those of the delivery
  · cases kind with
    | item i =>
      have hread := ItemMessage.read_write (nestingLimit - 1)
        (Nat.lt_of_le_of_lt (length_le_of_mem (List.mem_singleton_self (Delivery.item i).field)) h)
      simp [fields, Delivery.field, merge, Payload.bytes?, Delivery.itemOr, hread]
    | gap g =>
      have hread := GapMessage.read_write (nestingLimit - 1)
        (Nat.lt_of_le_of_lt (length_le_of_mem (List.mem_singleton_self (Delivery.gap g).field)) h)
      simp [fields, Delivery.field, merge, Payload.bytes?, Delivery.gapOr, hread]
    | heartbeat => rfl

end DeliveryMessage

/-! ## From sender to receiver -/

/-- What is sent is what is received.  A published value arrives under its names as it was, text as
text and bytes as bytes; a request for a subscription arrives with its names and its position; and
every message of a subscription arrives as it was, and is the same event or lacks the same as
before it was sent. -/
theorem sent_is_received :
    (∀ (cache topic : String) (value : Value),
      (publishMessage cache topic value).write.length < UInt64.size →
      ∃ m v, PublishMessage.read (publishMessage cache topic value).write = some m ∧
        m.cache = cache ∧ m.topic = topic ∧ m.value = some v ∧ Value.ofMessage v = .ok value) ∧
    (∀ r : SubscribeRequest, r.toMessage.write.length < UInt64.size →
      ∃ m, SubscribeMessage.read r.toMessage.write = some m ∧
        m.cache = r.cache ∧ m.topic = r.topic ∧
        m.resumeAt = r.position.number ∧ m.page = r.position.page) ∧
    ∀ m : DeliveryMessage, m.write.length < UInt64.size →
      DeliveryMessage.read m.write = some m ∧
      (DeliveryMessage.read m.write).map Event.ofMessage = some (Event.ofMessage m) := by
  refine ⟨?_, ?_, ?_⟩
  · intro cache topic value h
    exact ⟨_, value.toMessage, PublishMessage.read_write h, rfl, rfl, rfl,
      Value.ofMessage_toMessage value⟩
  · intro r h
    exact ⟨_, SubscribeMessage.read_write h, rfl, rfl, rfl, rfl⟩
  · intro m h
    have hread := DeliveryMessage.read_write h
    exact ⟨hread, congrArg (Option.map Event.ofMessage) hread⟩

/-- A request for the last position there is, on the last page. -/
def lastRequest : SubscribeRequest where
  cache := "c"
  topic := ""
  position := { number := 18446744073709551615, page := 18446744073709551615 }

/-- The last item there is, whose value is an empty run of bytes and whose publisher is unknown. -/
def lastDelivery : DeliveryMessage where
  kind := some (.item
    { number := 18446744073709551615, value := some (Value.binary []).toMessage })

theorem sent_is_received_extremes :
    ((publishMessage "" "t" (.text "")).write = [18, 1, 116, 26, 2, 10, 0] ∧
      (publishMessage "" "t" (.text "")).write.length < UInt64.size ∧
      ∃ m v, PublishMessage.read (publishMessage "" "t" (.text "")).write = some m ∧
        m.cache = "" ∧ m.topic = "t" ∧ m.value = some v ∧ Value.ofMessage v = .ok (.text "")) ∧
    (lastRequest.toMessage.write.length < UInt64.size ∧
      ∃ m, SubscribeMessage.read lastRequest.toMessage.write = some m ∧
        m.cache = "c" ∧ m.topic = "" ∧
        m.resumeAt = 18446744073709551615 ∧ m.page = 18446744073709551615) ∧
    lastDelivery.write.length < UInt64.size ∧
      DeliveryMessage.read lastDelivery.write = some lastDelivery := by
  have hpublish : (publishMessage "" "t" (.text "")).write = [18, 1, 116, 26, 2, 10, 0] := by
    decide
  have hfits : (publishMessage "" "t" (.text "")).write.length < UInt64.size := by
    rw [hpublish]
    decide
  have hrequest : lastRequest.toMessage.write.length < UInt64.size := by decide
  have hdelivery : lastDelivery.write.length < UInt64.size := by decide
  exact ⟨⟨hpublish, hfits, sent_is_received.1 "" "t" (.text "") hfits⟩,
    ⟨hrequest, sent_is_received.2.1 lastRequest hrequest⟩,
    hdelivery, (sent_is_received.2.2 lastDelivery hdelivery).1⟩

end PubSub
