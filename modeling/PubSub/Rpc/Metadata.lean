import PubSub.Text.Blank
import PubSub.Topic.Value

/-!
# Metadata

The named values that accompany a request.  A name may occur several times, and the values under
one name keep their order.  Names are compared without regard to the case of letters; they are kept
in small letters.
-/

namespace PubSub

/-- The named values that accompany a request. -/
structure Metadata where
  entries : List (String × Bytes) := []
  deriving DecidableEq, Repr

namespace Metadata

/-- The values under a name, in their order. -/
def values (m : Metadata) (name : String) : List Bytes :=
  (m.entries.filter fun e => e.1 == Text.lowerAscii name).map (·.2)

/-- Adds a value under a name. -/
def append (m : Metadata) (name : String) (value : Bytes) : Metadata where
  entries := m.entries ++ [(Text.lowerAscii name, value)]

/-- Makes a value the only one under its name. -/
def insert (m : Metadata) (name : String) (value : Bytes) : Metadata where
  entries :=
    (m.entries.filter fun e => e.1 != Text.lowerAscii name) ++ [(Text.lowerAscii name, value)]

/-- The metadata with these values, in this order. -/
def ofList (entries : List (String × Bytes)) : Metadata :=
  entries.foldl (fun m e => m.append e.1 e.2) {}

theorem values_append (m : Metadata) (name other : String) (value : Bytes) :
    (m.append name value).values other =
      m.values other ++
        (if Text.lowerAscii name = Text.lowerAscii other then [value] else []) := by
  by_cases h : Text.lowerAscii name = Text.lowerAscii other <;> simp [values, append, h]

/-- Inserting replaces what stood under the name and leaves every other name alone. -/
theorem values_insert (m : Metadata) (name other : String) (value : Bytes) :
    (m.insert name value).values other =
      if Text.lowerAscii name = Text.lowerAscii other then [value] else m.values other := by
  by_cases h : Text.lowerAscii name = Text.lowerAscii other
  · simp [values, insert, h, List.filter_filter]
  · have keep : ∀ e : String × Bytes,
        (e.1 == Text.lowerAscii other && e.1 != Text.lowerAscii name)
          = (e.1 == Text.lowerAscii other) := by
      intro e
      by_cases he : e.1 = Text.lowerAscii other
      · simp [he, Ne.symm h]
      · simp [he]
    simp [values, insert, List.filter_append, List.filter_filter, keep, h]

end Metadata

/-- Whether a byte may occur in a value: a tab, or anything but control characters. -/
def isValueByte (b : UInt8) : Bool := b == 9 || (32 ≤ b && b != 127)

/-- Whether a value consists of visible ASCII characters, blanks and tabs. -/
def isVisibleAscii (value : Bytes) : Bool := value.all fun b => b == 9 || (32 ≤ b && b < 127)

end PubSub
