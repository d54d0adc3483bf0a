import PubSub.Wire.Field
import PubSub.Topic.Value

/-!
# Messages

The messages that client and service exchange, and their encoding.

A message is written as its fields in the order of their numbers.  A number that is zero and a text
that is empty are left out; a nested message that is present is written even if it is empty, and so
is the one alternative that is chosen among several.

A message is read by merging its fields one after another into the empty message.  Unknown numbers
are skipped.  The last number or text wins; a nested message that occurs again is merged into the
first, unless another alternative has taken its place.  A known number with a payload of another
kind is an error.
-/

namespace PubSub

/-- The bytes of the reply to a publish, which is empty. -/
structure EmptyMessage where
  deriving DecidableEq, Repr

/-- A value as it travels.  The kind may be missing. -/
structure ValueMessage where
  kind : Option Value := none
  deriving DecidableEq, Repr

/-- A request to publish a value. -/
structure PublishMessage where
  cache : String := ""
  topic : String := ""
  value : Option ValueMessage := none
  deriving DecidableEq, Repr

/-- A request to deliver the items of a topic from a position on. -/
structure SubscribeMessage where
  cache : String := ""
  topic : String := ""
  resumeAt : UInt64 := 0
  page : UInt64 := 0
  deriving DecidableEq, Repr

/-- An item as it travels. -/
structure ItemMessage where
  number : UInt64 := 0
  value : Option ValueMessage := none
  publisher : String := ""
  page : UInt64 := 0
  deriving DecidableEq, Repr

/-- A gap in the numbering as it travels. -/
structure GapMessage where
  last : UInt64 := 0
  new : UInt64 := 0
  page : UInt64 := 0
  deriving DecidableEq, Repr

/-- What a message of a subscription is about. -/
inductive Delivery where
  | item (m : ItemMessage)
  | gap (m : GapMessage)
  | heartbeat
  deriving DecidableEq, Repr

/-- A message of a subscription.  The kind may be missing. -/
structure DeliveryMessage where
  kind : Option Delivery := none
  deriving DecidableEq, Repr

/-! ## Payloads of declared fields -/

namespace Payload

def number? : Payload → Option UInt64
  | varint n => some (UInt64.ofNat n)
  | _ => none

def bytes? : Payload → Option Bytes
  | delimited b => some b
  | _ => none

def text? : Payload → Option String
  | delimited b => ofUtf8Bytes? b
  | _ => none

end Payload

namespace Field

/-- A number, left out when it is zero. -/
def ofNumber (number : Nat) (n : UInt64) : List Field :=
  if n = 0 then [] else [⟨number, .varint n.toNat⟩]

/-- A text, left out when it is empty. -/
def ofText (number : Nat) (s : String) : List Field :=
  if s = "" then [] else [⟨number, .delimited (utf8Bytes s)⟩]

end Field

/-- How many levels of nesting a message may have, itself included. -/
def nestingLimit : Nat := 100

/-- Merges the fields of encoded bytes into a message that has so many levels left. -/
def mergeBytes {α : Type} (merge : α → Field → Option α) (levels : Nat) (start : α)
    (bytes : Bytes) : Option α := do
  let fields ← readFields levels bytes
  fields.foldlM merge start

/-! ## Messages without fields -/

namespace EmptyMessage

/-- Every field of an empty message is unknown. -/
def merge (m : EmptyMessage) (_ : Field) : Option EmptyMessage := some m

def write (_ : EmptyMessage) : Bytes := []

def read (bytes : Bytes) : Option EmptyMessage := mergeBytes merge nestingLimit {} bytes

end EmptyMessage

/-! ## Values -/

namespace ValueMessage

def fields (m : ValueMessage) : List Field :=
  match m.kind with
  | none => []
  | some (.text s) => [⟨1, .delimited (utf8Bytes s)⟩]
  | some (.binary b) => [⟨2, .delimited b⟩]

def merge (m : ValueMessage) (f : Field) : Option ValueMessage :=
  match f.number with
  | 1 => f.payload.text?.map fun s => { kind := some (.text s) }
  | 2 => f.payload.bytes?.map fun b => { kind := some (.binary b) }
  | _ => some m

def write (m : ValueMessage) : Bytes := writeFields m.fields

/-- Merges encoded bytes into a value. -/
def readInto (levels : Nat) (m : ValueMessage) (bytes : Bytes) : Option ValueMessage :=
  mergeBytes merge levels m bytes

def read (bytes : Bytes) : Option ValueMessage := readInto nestingLimit {} bytes

end ValueMessage

/-! ## Requests -/

namespace PublishMessage

/-- The fields of a request to publish. -/
def fields (m : PublishMessage) : List Field :=
  Field.ofText 1 m.cache ++ Field.ofText 2 m.topic
    ++ (m.value.map fun v => (⟨3, .delimited v.write⟩ : Field)).toList

/-- Merges a field into a request to publish. -/
def merge (m : PublishMessage) (f : Field) : Option PublishMessage :=
  match f.number with
  | 1 => f.payload.text?.map fun s => { m with cache := s }
  | 2 => f.payload.text?.map fun s => { m with topic := s }
  | 3 => do
    let bytes ← f.payload.bytes?
    let value ← ValueMessage.readInto (nestingLimit - 1) (m.value.getD {}) bytes
    some { m with value := some value }
  | _ => some m

/-- The bytes of a request to publish. -/
def write (m : PublishMessage) : Bytes := writeFields m.fields

/-- Reads a request to publish. -/
def read (bytes : Bytes) : Option PublishMessage := mergeBytes merge nestingLimit {} bytes

end PublishMessage

namespace SubscribeMessage

/-- The fields of a request to subscribe. -/
def fields (m : SubscribeMessage) : List Field :=
  Field.ofText 1 m.cache ++ Field.ofText 2 m.topic
    ++ Field.ofNumber 3 m.resumeAt ++ Field.ofNumber 4 m.page

/-- Merges a field into a request to subscribe. -/
def merge (m : SubscribeMessage) (f : Field) : Option SubscribeMessage :=
  match f.number with
  | 1 => f.payload.text?.map fun s => { m with cache := s }
  | 2 => f.payload.text?.map fun s => { m with topic := s }
  | 3 => f.payload.number?.map fun n => { m with resumeAt := n }
  | 4 => f.payload.number?.map fun n => { m with page := n }
  | _ => some m

/-- The bytes of a request to subscribe. -/
def write (m : SubscribeMessage) : Bytes := writeFields m.fields

/-- Reads a request to subscribe. -/
def read (bytes : Bytes) : Option SubscribeMessage := mergeBytes merge nestingLimit {} bytes

end SubscribeMessage

/-! ## Deliveries -/

namespace ItemMessage

def fields (m : ItemMessage) : List Field :=
  Field.ofNumber 1 m.number ++ (m.value.map fun v => (⟨2, .delimited v.write⟩ : Field)).toList
    ++ Field.ofText 3 m.publisher ++ Field.ofNumber 4 m.page

/-- Merges a field into an item that has so many levels left. -/
def merge (levels : Nat) (m : ItemMessage) (f : Field) : Option ItemMessage :=
  match f.number with
  | 1 => f.payload.number?.map fun n => { m with number := n }
  | 2 => do
    let bytes ← f.payload.bytes?
    let value ← ValueMessage.readInto (levels - 1) (m.value.getD {}) bytes
    some { m with value := some value }
  | 3 => f.payload.text?.map fun s => { m with publisher := s }
  | 4 => f.payload.number?.map fun n => { m with page := n }
  | _ => some m

def write (m : ItemMessage) : Bytes := writeFields m.fields

/-- Merges encoded bytes into an item. -/
def readInto (levels : Nat) (m : ItemMessage) (bytes : Bytes) : Option ItemMessage :=
  mergeBytes (merge levels) levels m bytes

def read (bytes : Bytes) : Option ItemMessage := readInto nestingLimit {} bytes

end ItemMessage

namespace GapMessage

def fields (m : GapMessage) : List Field :=
  Field.ofNumber 1 m.last ++ Field.ofNumber 2 m.new ++ Field.ofNumber 3 m.page

def merge (m : GapMessage) (f : Field) : Option GapMessage :=
  match f.number with
  | 1 => f.payload.number?.map fun n => { m with last := n }
  | 2 => f.payload.number?.map fun n => { m with new := n }
  | 3 => f.payload.number?.map fun n => { m with page := n }
  | _ => some m

def write (m : GapMessage) : Bytes := writeFields m.fields

/-- Merges encoded bytes into a gap. -/
def readInto (levels : Nat) (m : GapMessage) (bytes : Bytes) : Option GapMessage :=
  mergeBytes merge levels m bytes

def read (bytes : Bytes) : Option GapMessage := readInto nestingLimit {} bytes

end GapMessage

namespace Delivery

def field : Delivery → Field
  | item m => ⟨1, .delimited m.write⟩
  | gap m => ⟨2, .delimited m.write⟩
  | heartbeat => ⟨3, .delimited []⟩

/-- The item to merge into: the one at hand, or an empty one. -/
def itemOr : Option Delivery → ItemMessage
  | some (item m) => m
  | _ => {}

/-- The gap to merge into: the one at hand, or an empty one. -/
def gapOr : Option Delivery → GapMessage
  | some (gap m) => m
  | _ => {}

end Delivery

namespace DeliveryMessage

/-- The fields of a message of a subscription. -/
def fields (m : DeliveryMessage) : List Field :=
  (m.kind.map Delivery.field).toList

/-- Merges a field into a message of a subscription. -/
def merge (m : DeliveryMessage) (f : Field) : Option DeliveryMessage :=
  match f.number with
  | 1 => do
    let bytes ← f.payload.bytes?
    let item ← ItemMessage.readInto (nestingLimit - 1) (Delivery.itemOr m.kind) bytes
    some { kind := some (.item item) }
  | 2 => do
    let bytes ← f.payload.bytes?
    let gap ← GapMessage.readInto (nestingLimit - 1) (Delivery.gapOr m.kind) bytes
    some { kind := some (.gap gap) }
  | 3 => do
    let bytes ← f.payload.bytes?
    let _ ← mergeBytes EmptyMessage.merge (nestingLimit - 1) {} bytes
    some { kind := some .heartbeat }
  | _ => some m

/-- The bytes of a message of a subscription. -/
def write (m : DeliveryMessage) : Bytes := writeFields m.fields

/-- Reads a message of a subscription. -/
def read (bytes : Bytes) : Option DeliveryMessage := mergeBytes merge nestingLimit {} bytes

end DeliveryMessage

end PubSub
