import PubSub.Proofs.Wire.Grammar

/-!
# Framing

Fields that were written are read back, whatever follows them.

A reader does not know which fields a message declares, so this is about all fields that have a
written form of their own.  Groups have none here: nothing that is sent contains them, and their
bytes end where a mark says so.

* `Field.Framed`: the fields that can be written so that a reader finds their end.
* `Field.Framed.spells`: what is written is one of the spellings of such a field.
* `readFields_writeFields`: several of them are read back, at any depth of nesting.
* `mergeBytes_writeFields`: reading a message from its bytes is merging the fields that were written.
* `Field.framed_of_plain`: in bytes whose number fits into a length, all declared fields are framed.
-/

namespace PubSub

/-- The bytes of a number are a spelling of it. -/
theorem Varint.spells_write {n : Nat} (h : n < UInt64.size) : Spells n (write n) := by
  rcases read_eq_some_iff.1 (read_write_append n [] h) with ⟨front, hfront, hspells⟩
  rw [List.append_nil, List.append_nil] at hfront
  rwa [hfront]

/-! ## Texts -/

/-- The bytes of a text are well formed, and the text of these bytes is the text. -/
theorem ofUtf8Bytes?_utf8Bytes (s : String) : ofUtf8Bytes? (utf8Bytes s) = some s := by
  have hbytes : (⟨(utf8Bytes s).toArray⟩ : ByteArray) = s.toByteArray := by
    simp [utf8Bytes]
  unfold ofUtf8Bytes?
  rw [hbytes]
  exact dif_pos s.isValidUTF8

/-! ## Payloads -/

namespace Payload

/-- The bytes behind the mark of a field. -/
def body : Payload → Bytes
  | varint n => Varint.write n
  | delimited bytes => Varint.write bytes.length ++ bytes
  | fixed64 bytes | group bytes | fixed32 bytes => bytes

/-- The payloads whose end can be found: numbers and lengths have sixty-four bits, and the runs of
fixed length have it. -/
def Fits : Payload → Prop
  | varint n => n < UInt64.size
  | fixed64 bytes => bytes.length = 8
  | delimited bytes => bytes.length < UInt64.size
  | group _ => False
  | fixed32 bytes => bytes.length = 4

theorem kind_lt (p : Payload) : p.kind < 6 := by
  cases p <;> simp [kind]

/-- The bytes behind the mark are what the mark says. -/
theorem Fits.spells {p : Payload} (h : p.Fits) : Field.Body p p.body := by
  cases p with
  | varint n => exact .varint (Varint.spells_write h)
  | fixed64 bytes => exact .fixed64 h
  | delimited bytes => exact .delimited (Varint.spells_write h)
  | group bytes => exact absurd h not_false
  | fixed32 bytes => exact .fixed32 h

end Payload

/-! ## Fields -/

namespace Field

/-- A field with a number whose mark fits into thirty-two bits, and a payload that fits. -/
structure Framed (f : Field) : Prop where
  pos : 1 ≤ f.number
  marked : f.number * 8 + 7 < UInt32.size
  fits : f.payload.Fits

theorem write_eq (f : Field) : f.write = writeKey f.number f.payload.kind ++ f.payload.body := by
  rcases f with ⟨number, payload⟩
  cases payload with
  | delimited bytes => exact List.append_assoc _ _ _
  | _ => rfl

theorem key_writeKey {number kind : Nat} (hpos : 1 ≤ number)
    (hmarked : number * 8 + 7 < UInt32.size) (hkind : kind < 6) :
    Key number kind (writeKey number kind) := by
  have hkey : number * 8 + kind < UInt32.size := by omega
  have hsize : UInt32.size < UInt64.size := by decide
  exact ⟨Varint.spells_write (Nat.lt_trans hkey hsize), hkey, hpos, hkind⟩

/-- What is written for a field is a spelling of it. -/
theorem Framed.spells (levels : Nat) {f : Field} (h : f.Framed) : Spells levels f f.write := by
  rw [write_eq]
  exact .plain (key_writeKey h.pos h.marked f.payload.kind_lt) h.fits.spells

end Field

/-! ## Several fields -/

theorem readFields_writeFields (levels : Nat) {fields : List Field}
    (h : ∀ f ∈ fields, f.Framed) : readFields levels (writeFields fields) = some fields := by
  induction fields with
  | nil => rfl
  | cons f fields ih =>
    have hfield := (h f List.mem_cons_self).spells levels
    have hrest := ih fun g hg => h g (List.mem_cons_of_mem f hg)
    rw [writeFields, List.flatMap_cons, readFields_append hfield, ← writeFields, hrest]
    rfl

/-- Reading a message from its bytes is merging the fields that were written. -/
theorem mergeBytes_writeFields {α : Type} (merge : α → Field → Option α) (levels : Nat) (start : α)
    {fields : List Field} (h : ∀ f ∈ fields, f.Framed) :
    mergeBytes merge levels start (writeFields fields) = fields.foldlM merge start := by
  rw [mergeBytes, readFields_writeFields levels h]
  rfl

/-- The run of bytes in a field is a part of what is written. -/
theorem length_le_of_mem {fields : List Field} {number : Nat} {bytes : Bytes}
    (h : (⟨number, .delimited bytes⟩ : Field) ∈ fields) :
    bytes.length ≤ (writeFields fields).length := by
  have hfield : bytes.length ≤ (Field.write ⟨number, .delimited bytes⟩).length := by
    rw [Field.write_eq, List.length_append, Payload.body, List.length_append]
    omega
  exact Nat.le_trans hfield (List.Sublist.length_le (List.sublist_flatten_of_mem
    (List.mem_map_of_mem h)))

namespace Field

/-- A field of the kinds that messages declare: a number of sixty-four bits or a run of bytes, under
a number that fits. -/
structure Plain (f : Field) : Prop where
  pos : 1 ≤ f.number
  marked : f.number * 8 + 7 < UInt32.size
  payload : (∃ n : UInt64, f.payload = .varint n.toNat) ∨ ∃ bytes, f.payload = .delimited bytes

/-- Plain fields are framed where a length can count all that is written. -/
theorem framed_of_plain {fields : List Field} (h : ∀ f ∈ fields, f.Plain)
    (hlength : (writeFields fields).length < UInt64.size) : ∀ f ∈ fields, f.Framed := by
  intro f hf
  have hplain := h f hf
  refine ⟨hplain.pos, hplain.marked, ?_⟩
  rcases f with ⟨number, payload⟩
  rcases hplain.payload with ⟨n, rfl⟩ | ⟨bytes, rfl⟩
  · exact n.toNat_lt
  · exact Nat.lt_of_le_of_lt (length_le_of_mem hf) hlength

end Field

end PubSub
