import PubSub.Wire.Varint

/-!
# Values

What is published to a topic and delivered to its subscribers: a text or a sequence of bytes.
-/

namespace PubSub

/-- The UTF-8 bytes of a text. -/
def utf8Bytes (s : String) : Bytes := s.toUTF8.data.toList

/-- The text of UTF-8 bytes, if they are well formed. -/
def ofUtf8Bytes? (bytes : Bytes) : Option String := String.fromUTF8? ⟨bytes.toArray⟩

/-- A published value. -/
inductive Value where
  | text (s : String)
  | binary (bytes : Bytes)
  deriving DecidableEq, Repr

namespace Value

def asText? : Value → Option String
  | text s => some s
  | binary _ => none

/-- The bytes of a value; text is encoded in UTF-8. -/
def bytes : Value → Bytes
  | text s => utf8Bytes s
  | binary b => b

/-- A value as one line: text as it is, bytes by their number. -/
def display : Value → String
  | text s => s
  | binary b => "<" ++ toString b.length ++ " bytes>"

end Value

end PubSub
