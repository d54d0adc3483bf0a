import PubSub.Text.Numeral

/-!
# Setting errors

Why a setting cannot be read from the environment: it is required and missing, or its text is not a
value of its type.
-/

namespace PubSub

/-- What is wrong with the text of a setting. -/
inductive SettingFault where
  | numeral (e : Text.NumeralError)
  | unknownPolicy (name : String)
  | blankToken
  | other (details : String)
  deriving DecidableEq, Repr

/-- The wording for an unknown retry policy. -/
def unknownPolicyMessage (name : String) : String :=
  "unknown retry strategy '" ++ name
    ++ "' (expected never, fixed-count, exponential or fixed-timeout)"

/-- The wording of each fault. -/
def SettingFault.message : SettingFault → String
  | numeral e => e.message
  | unknownPolicy name => unknownPolicyMessage name
  | blankToken => "token cannot be empty"
  | other details => details

/-- Why a setting cannot be read. -/
inductive SettingError where
  | missing (key : String)
  | malformed (key : String) (fault : SettingFault)
  deriving DecidableEq, Repr

/-- The wording of each error. -/
def SettingError.message : SettingError → String
  | missing key => "Environment variable '" ++ key ++ "' is required but not set"
  | malformed key fault =>
    "Failed to parse environment variable '" ++ key ++ "': " ++ fault.message

end PubSub
