/-!
# Diagnostic text of records

The layout in which records, options and lists of bytes appear in diagnostic output:
a name with its fields in braces, a constructor with its argument in parentheses, and lists in
brackets.  The texts of the parts are given by the caller.
-/

namespace PubSub.Text

/-- The texts of a list, separated by comma and blank. -/
def commaSeparated (parts : List String) : String :=
  ", ".intercalate parts

/-- A record with its fields in order; a record without fields is its name alone. -/
def recordText (name : String) (fields : List (String × String)) : String :=
  if fields.isEmpty then name
  else
    name ++ " \x7b " ++ commaSeparated (fields.map fun f => f.1 ++ ": " ++ f.2) ++ " \x7d"

/-- A constructor applied to one argument. -/
def applied (name argument : String) : String :=
  name ++ "(" ++ argument ++ ")"

/-- An optional value. -/
def optionText : Option String → String
  | none => "None"
  | some value => applied "Some" value

/-- A truth value. -/
def boolText (b : Bool) : String :=
  if b then "true" else "false"

/-- A list in brackets. -/
def listText (parts : List String) : String :=
  "[" ++ commaSeparated parts ++ "]"

end PubSub.Text
