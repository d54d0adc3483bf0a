import PubSub.Command.LogFilter
import PubSub.Settings.Environment

/-!
# Output of a command

A command writes lines of its own and notices, in one stream.  In production a notice is one line
that holds a JSON object; during development it is indented prose.  The environment says which
notices are shown.
-/

namespace PubSub

/-! ## Notices in JSON -/

namespace Text

/-- A character between the quotes of a JSON string. -/
def jsonChar (c : Char) : List Char :=
  if c = '"' ∨ c = '\\' then ['\\', c]
  else if c.toNat < 0x20 then
    ['\\', 'u', '0', '0', Nat.digitChar (c.toNat / 16), Nat.digitChar (c.toNat % 16)]
  else [c]

def jsonString (s : String) : String :=
  String.ofList ('"' :: s.toList.flatMap jsonChar ++ ['"'])

end Text

def Level.name : Level → String
  | info => "INFO"
  | warning => "WARN"
  | error => "ERROR"

namespace Notice

/-- A named value in JSON. -/
def jsonMember (name : String) : NoticeValue → String
  | .text s => Text.jsonString name ++ ":" ++ Text.jsonString s
  | .number n => Text.jsonString name ++ ":" ++ toString n

/-- A notice as a JSON object: its level, its text and its named values side by side. -/
def json (n : Notice) : String :=
  let head := [jsonMember "level" (.text n.level.name), jsonMember "message" (.text n.text)]
  "\x7b" ++ ",".intercalate (head ++ n.fields.map fun f => jsonMember f.1 f.2) ++ "\x7d"

def prose (n : Notice) : String :=
  let values := n.fields.map fun (name, value) =>
    name ++ ": " ++ match value with
      | .text s => s
      | .number n => toString n
  "  " ++ n.level.name ++ " " ++ ", ".intercalate (n.text :: values)

end Notice

/-! ## What is shown -/

/-- The filter for notices that the environment asks for.  One that cannot be read is not used. -/
def LogFilter.ofEnvironment (env : Environment) : LogFilter :=
  ((env "RUST_LOG").bind LogFilter.read?).getD .standard

/-- What a command writes. -/
inductive Output where
  | line (text : String)
  | notice (n : Notice)
  deriving DecidableEq, Repr

namespace Output

/-- Whether some output is shown. -/
def isShown (filter : LogFilter) : Output → Bool
  | line _ => true
  | notice n => filter.shows n

/-- Some output as text. -/
def text (stage : Stage) : Output → String
  | line text => text
  | notice n => if stage = .production then n.json else n.prose

end Output

/-- The lines that come of some output. -/
def outputLines (env : Environment) (output : List Output) : List String :=
  (output.filter (Output.isShown (.ofEnvironment env))).map (Output.text (.ofEnvironment env))

end PubSub
