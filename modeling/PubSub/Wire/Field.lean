import PubSub.Wire.Varint

/-!
# Fields

A message travels as a list of fields.  A field is a number with a payload of one of five kinds: a
number, eight bytes, a counted run of bytes, a group of further fields between two marks, or four
bytes.  `readFields` splits bytes into fields without knowing which of them the message declares;
`Field.write` is its inverse on well-formed fields.

Groups may be nested.  A message read at some depth of nesting has a number of `levels` left; every
open group takes one of them, and a field may not begin once none is left.
-/

namespace PubSub

/-- What a field carries. -/
inductive Payload where
  | varint (n : Nat)
  | fixed64 (bytes : Bytes)
  | delimited (bytes : Bytes)
  | group (bytes : Bytes)
  | fixed32 (bytes : Bytes)
  deriving DecidableEq, Repr

/-- A numbered payload. -/
structure Field where
  number : Nat
  payload : Payload
  deriving DecidableEq, Repr

namespace Field

/-- The mark that opens a field: its number and the kind of its payload in one number. -/
def writeKey (number kind : Nat) : Bytes := Varint.write (number * 8 + kind)

/-- Reads the mark that opens a field.  It fits into thirty-two bits, the number is not zero, and
the kind is one of the six that exist. -/
def readKey (bytes : Bytes) : Option (Nat × Nat × Bytes) := do
  let (key, rest) ← Varint.read bytes
  if key < UInt32.size ∧ 1 ≤ key / 8 ∧ key % 8 < 6 then some (key / 8, key % 8, rest) else none

/-- Splits off a run of `n` bytes, if there are that many. -/
def takeBytes? (n : Nat) (bytes : Bytes) : Option (Bytes × Bytes) :=
  if n ≤ bytes.length then some (bytes.take n, bytes.drop n) else none

/-- Reads a count and splits off that many bytes. -/
def readDelimited (bytes : Bytes) : Option (Bytes × Bytes) := do
  let (n, rest) ← Varint.read bytes
  takeBytes? n rest

/-- The bytes behind a payload of the given kind that is neither the start nor the end of a
group. -/
def skipPlain (kind : Nat) (bytes : Bytes) : Option Bytes :=
  match kind with
  | 0 => (Varint.read bytes).map (·.2)
  | 1 => (takeBytes? 8 bytes).map (·.2)
  | 2 => (readDelimited bytes).map (·.2)
  | 5 => (takeBytes? 4 bytes).map (·.2)
  | _ => none

/-- The bytes behind a group.  `open` lists the numbers of the groups that are open, innermost
first, and the end mark of a group has to name it.  The first argument bounds the number of fields
inside, which is at most the number of bytes. -/
def skipGroups (levels : Nat) : Nat → List Nat → Bytes → Option Bytes
  | _, [], bytes => some bytes
  | 0, _ :: _, _ => none
  | fuel + 1, number :: outer, bytes => do
    let (key, kind, rest) ← readKey bytes
    if kind = 4 then
      if key = number then skipGroups levels fuel outer rest else none
    else if levels ≤ (number :: outer).length then none
    else if kind = 3 then skipGroups levels fuel (key :: number :: outer) rest
    else do
      let rest ← skipPlain kind rest
      skipGroups levels fuel (number :: outer) rest

/-- Reads the payload of a field whose mark has been read. -/
def readPayload (levels number kind : Nat) (bytes : Bytes) : Option (Payload × Bytes) :=
  match kind with
  | 0 => (Varint.read bytes).map fun r => (.varint r.1, r.2)
  | 1 => (takeBytes? 8 bytes).map fun r => (.fixed64 r.1, r.2)
  | 2 => (readDelimited bytes).map fun r => (.delimited r.1, r.2)
  | 3 =>
    (skipGroups levels bytes.length [number] bytes).map fun rest =>
      (.group (bytes.take (bytes.length - rest.length)), rest)
  | 5 => (takeBytes? 4 bytes).map fun r => (.fixed32 r.1, r.2)
  | _ => none

def read (levels : Nat) (bytes : Bytes) : Option (Field × Bytes) := do
  let (number, kind, rest) ← readKey bytes
  let (payload, rest) ← readPayload levels number kind rest
  some (⟨number, payload⟩, rest)

/-- Reads fields until no bytes are left.  The first argument bounds their number, which is at most
the number of bytes. -/
def readUpTo (levels : Nat) : Nat → Bytes → Option (List Field)
  | _, [] => some []
  | 0, _ :: _ => none
  | fuel + 1, bytes => do
    let (field, rest) ← read levels bytes
    (readUpTo levels fuel rest).map (field :: ·)

def write (f : Field) : Bytes :=
  match f.payload with
  | .varint n => writeKey f.number 0 ++ Varint.write n
  | .fixed64 bytes => writeKey f.number 1 ++ bytes
  | .delimited bytes => writeKey f.number 2 ++ Varint.write bytes.length ++ bytes
  | .group bytes => writeKey f.number 3 ++ bytes
  | .fixed32 bytes => writeKey f.number 5 ++ bytes

end Field

/-- Splits the bytes of a message into fields. -/
def readFields (levels : Nat) (bytes : Bytes) : Option (List Field) :=
  Field.readUpTo levels bytes.length bytes

def writeFields (fields : List Field) : Bytes := fields.flatMap Field.write

end PubSub
