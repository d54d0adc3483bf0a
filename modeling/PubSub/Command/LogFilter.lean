import PubSub.Rpc.Notice
import PubSub.Text.Blank
import PubSub.Text.Numeral

/-!
# Log filters

Which notices are shown.  A filter is a list of rules with commas between them, and among the rules
that concern a notice the most specific one says up to which level notices are shown.  What no rule
concerns is not shown.

A rule is a level; or the beginning of a source; or a source, a span with a field, or both, and
behind an equals sign a level: `source[span{field=value}]=level`.  Where a level is missing, all
levels are meant.  Rules that name a span or the value of a field are about spans, of which notices
know nothing, so they show nothing.

The structure of a rule is found on its text without the white space around it, and the parts are
then cut out of the whole text at the same places.  So white space in front of a rule shifts its
parts, and it never becomes a level.
-/

namespace PubSub

/-! ## Levels -/

/-- The rank of a level; more urgent ones have a smaller rank. -/
def Level.rank : Level → Nat
  | error => 1
  | warning => 2
  | info => 3

/-- The rank of the level at which everything is shown. -/
def finestRank : Nat := 5

/-- The rank that a word asks for: notices are shown up to it. -/
def levelRank? (word : List Char) : Option Nat :=
  match Text.readNumeral Text.longBound word with
  | .ok n => if n ≤ finestRank then some n else none
  | .error _ =>
    match Text.lowerAscii (String.ofList word) with
    | "off" => some 0
    | "error" => some 1
    | "warn" => some 2
    | "info" => some 3
    | "debug" => some 4
    | "trace" => some 5
    | _ => none

/-! ## Rules -/

/-- A rule of a filter. -/
structure LogRule where
  /-- How the source begins; every source if there is none. -/
  source : Option (List Char) := none
  span : Option (List Char) := none
  /-- The name of a field, and whether a value is asked for. -/
  field : Option (List Char × Bool) := none
  /-- The rank up to which notices are shown. -/
  rank : Nat := finestRank
  deriving DecidableEq, Repr

namespace LogRule

/-- The first of some marks at or behind a place, and where it is. -/
def nextMark? (marks text : List Char) (start : Nat) : Option (Nat × Char) :=
  let place := start + ((text.drop start).takeWhile fun c => !marks.contains c).length
  (text[place]?).map fun c => (place, c)

/-- Whether a rule can begin with a character.  Every character that is not ASCII counts as a
letter here. -/
def opensName (c : Char) : Bool := c.isAlphanum || c = '-' || c = ':' || c = '_' || 0x7F < c.toNat

/-- The characters of a text from one place up to another. -/
def cut (text : List Char) (start stop : Nat) : List Char := (text.drop start).take (stop - start)

/-- The rule with the level that a word names; without a word all levels are meant. -/
def withLevel? (rule : LogRule) (word : List Char) : Option LogRule :=
  if word.isEmpty then some { rule with rank := finestRank }
  else (levelRank? word).map fun rank => { rule with rank }

/-- Reads what follows the bracket behind a span. -/
def readTail? (whole text : List Char) (rule : LogRule) (start : Nat) : Option LogRule :=
  match text[start]? with
  | none => some rule
  | some '=' => rule.withLevel? (whole.drop (start + 1))
  | some _ => none

/-- Reads a field and what follows it. -/
def readField? (whole text : List Char) (rule : LogRule) (start : Nat) : Option LogRule :=
  match nextMark? ['\x7d'] text start with
  | none => none
  | some (stop, _) =>
    let field := cut whole start stop
    if field.isEmpty ∨ text[stop + 1]? ≠ some ']' then none
    else
      let name := field.takeWhile (· ≠ '=')
      readTail? whole text { rule with field := some (name, field.contains '=') } (stop + 2)

/-- Reads a span, which stands in brackets, and what follows it. -/
def readSpan? (whole text : List Char) (rule : LogRule) (start : Nat) : Option LogRule :=
  match nextMark? [']', '\x7b'] text start with
  | none => none
  | some (stop, mark) =>
    let span := cut whole start stop
    if mark = ']' then readTail? whole text { rule with span := some span } (stop + 1)
    else
      readField? whole text { rule with span := if span.isEmpty then none else some span }
        (stop + 1)

def read? (whole : List Char) : Option LogRule :=
  let text := Text.trimChars whole
  match text with
  | [] => none
  | first :: _ =>
    if first = '[' then readSpan? whole text {} 1
    else if opensName first then
      match nextMark? ['=', '['] text 0 with
      | none =>
        match levelRank? whole with
        | some rank => some { rank }
        | none => some { source := some whole }
      | some (stop, mark) =>
        let rule : LogRule := { source := some (cut whole 0 stop) }
        if mark = '=' then rule.withLevel? (whole.drop (stop + 1))
        else readSpan? whole text rule (stop + 1)
    else none

/-- Whether a rule concerns a notice.  The text of a notice counts as a field as well. -/
def concerns (rule : LogRule) (n : Notice) : Bool :=
  let named (name : List Char) : Bool :=
    ("message" :: n.fields.map (·.1)).any fun field => field.toList == name
  rule.span.isNone
    && rule.source.all (fun start => start.isPrefixOf n.source.toList)
    && rule.field.all fun (name, valued) => !valued && named name

/-- Whether a rule is at least as specific as another one: a longer source first, then a field, then
the name of the field. -/
def covers (rule other : LogRule) : Bool :=
  let size (r : LogRule) : Nat := (r.source.map fun start => start.length + 1).getD 0
  let name (r : LogRule) : String := (r.field.map fun f => String.ofList f.1).getD ""
  if size rule ≠ size other then size other < size rule
  else if rule.field.isSome ≠ other.field.isSome then rule.field.isSome
  else !(name rule < name other)

end LogRule

/-! ## Filters -/

/-- The rules of a filter, in order. -/
abbrev LogFilter := List LogRule

namespace LogFilter

/-- The filter that shows everything from milestones on. -/
def standard : LogFilter := [{ rank := Level.info.rank }]

/-- Reads a filter; none if one of its rules cannot be read.  Rules without any text are passed
over. -/
def read? (text : String) : Option LogFilter :=
  ((text.splitOn ",").filter (!·.isEmpty)).mapM fun rule => LogRule.read? rule.toList

/-- The rule that decides about a notice: the most specific one that concerns it, and the last of
several that are equally specific. -/
def decisive? (filter : LogFilter) (n : Notice) : Option LogRule :=
  (filter.filter (·.concerns n)).foldl
    (fun best rule =>
      match best with
      | none => some rule
      | some best => if rule.covers best then some rule else some best)
    none

def shows (filter : LogFilter) (n : Notice) : Bool :=
  (filter.decisive? n).any fun rule => n.level.rank ≤ rule.rank

end LogFilter

end PubSub
