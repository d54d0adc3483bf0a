import PubSub.Text.Printable

/-!
# Quoted text

Text between double quotes, as it appears inside diagnostic output.  Quote and backslash stand
behind a backslash, four control characters have a letter of their own, and every other character
that does not print is given by its number in braces.
-/

namespace PubSub.Text

def escapeLetter? (c : Char) : Option Char :=
  if c = '"' then some '"'
  else if c = '\\' then some '\\'
  else if c = '\n' then some 'n'
  else if c = '\r' then some 'r'
  else if c = '\t' then some 't'
  else if c = Char.ofNat 0 then some '0'
  else none

/-- A character inside quotes. -/
def quotedChar (c : Char) : List Char :=
  match escapeLetter? c with
  | some letter => ['\\', letter]
  | none =>
    if isPrintable c then [c]
    else ['\\', 'u', '\x7b'] ++ Nat.toDigits 16 c.toNat ++ ['\x7d']

/-- A text between quotes. -/
def quoted (s : String) : String :=
  String.ofList ('"' :: s.toList.flatMap quotedChar ++ ['"'])

end PubSub.Text
