import PubSub.Settings.SettingError
import PubSub.Text.Blank
import PubSub.Topic.Value

/-!
# The environment

Named texts that the program is started with.  A variable whose bytes are not UTF-8 counts as
unset.
-/

namespace PubSub

/-- The text of each variable that is set. -/
abbrev Environment := String → Option String

namespace Environment

/-- The environment with these variables; of two with one name the first counts. -/
def ofList (assigned : List (String × Bytes)) : Environment := fun key =>
  (assigned.lookup key).bind ofUtf8Bytes?

/-- The text of a variable, or another text when it is unset. -/
def getD (env : Environment) (key fallback : String) : String := (env key).getD fallback

/-- The text of a variable that has to be set. -/
def require (env : Environment) (key : String) : Except SettingError String :=
  match env key with
  | some text => .ok text
  | none => .error (.missing key)

/-- The value of a variable, read from its text without the white space around it, or another value
when it is unset. -/
def readD {α : Type} (env : Environment) (read : String → Except SettingFault α) (key : String)
    (fallback : α) : Except SettingError α :=
  match env key with
  | none => .ok fallback
  | some text =>
    match read (Text.trim text) with
    | .ok value => .ok value
    | .error fault => .error (.malformed key fault)

end Environment

/-- Reads a number of thirty-two bits. -/
def readWord (text : String) : Except SettingFault UInt32 :=
  match Text.readNumeral Text.wordBound text.toList with
  | .ok n => .ok (UInt32.ofNat n)
  | .error e => .error (.numeral e)

/-- Reads a number of sixty-four bits. -/
def readLong (text : String) : Except SettingFault UInt64 :=
  match Text.readNumeral Text.longBound text.toList with
  | .ok n => .ok (UInt64.ofNat n)
  | .error e => .error (.numeral e)

/-- What a deployment is for. -/
inductive Stage where
  | development
  | production
  deriving DecidableEq, Repr

namespace Stage

def name : Stage → String
  | development => "Development"
  | production => "Production"

/-- The stage that the environment names.  Only the word for production matters, in capital or
small letters and with nothing around it. -/
def ofEnvironment (env : Environment) : Stage :=
  if Text.eqIgnoringAsciiCase (env.getD "APP_ENV" "development") "production" then .production
  else .development

end Stage

end PubSub
