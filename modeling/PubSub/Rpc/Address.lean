import PubSub.Text.Blank
import PubSub.Topic.Value

/-!
# Addresses

The grammar of the addresses that a channel can be opened to.

An address is a scheme, the mark `://`, an authority (user, host and port), and a path with an
optional query; or an authority alone; or a path alone.  It is checked on its UTF-8 bytes.  An
address that begins with `unix:` names a local socket and is not checked further.
-/

namespace PubSub

/-- What is wrong with an address. -/
inductive AddressFault where
  | badCharacter
  | badAuthority
  | badFormat
  | tooLong
  | empty
  | schemeTooLong
  deriving DecidableEq, Repr

namespace AddressFault

/-- The wording of each fault. -/
def message : AddressFault → String
  | badCharacter => "invalid uri character"
  | badAuthority => "invalid authority"
  | badFormat => "invalid format"
  | tooLong => "uri too long"
  | empty => "empty string"
  | schemeTooLong => "scheme too long"

/-- The name of each fault in diagnostic output. -/
def name : AddressFault → String
  | badCharacter => "InvalidUriChar"
  | badAuthority => "InvalidAuthority"
  | badFormat => "InvalidFormat"
  | tooLong => "TooLong"
  | empty => "Empty"
  | schemeTooLong => "SchemeTooLong"

end AddressFault

namespace Address

/-- The code of an ASCII character. -/
def code (c : Char) : UInt8 := UInt8.ofNat c.toNat

/-- Whether a byte is one of the characters of an ASCII text. -/
def among (set : String) (b : UInt8) : Bool := (set.toList.map code).contains b

/-- Letters and digits. -/
def isAlphanumeric (b : UInt8) : Bool :=
  (code '0' ≤ b && b ≤ code '9') || (code 'A' ≤ b && b ≤ code 'Z')
    || (code 'a' ≤ b && b ≤ code 'z')

/-- The characters of a scheme. -/
def isSchemeByte (b : UInt8) : Bool := isAlphanumeric b || among "+-.~" b

/-- The characters of an authority that have no role in its structure. -/
def isAuthorityByte (b : UInt8) : Bool := isAlphanumeric b || among "!$&'()*+,-.;=_~" b

/-- The characters of a path; a text in a script that is not ASCII is one of them. -/
def isPathByte (b : UInt8) : Bool :=
  b == 0x21 || (0x24 ≤ b && b ≤ 0x3B) || b == 0x3D || (0x40 ≤ b && b ≤ 0x5F)
    || (0x61 ≤ b && b ≤ 0x7A) || b == 0x7C || b == 0x7E || 0x80 ≤ b || among "\"\x7b\x7d" b

/-- The characters of a query. -/
def isQueryByte (b : UInt8) : Bool :=
  b == 0x21 || (0x24 ≤ b && b ≤ 0x3B) || b == 0x3D || (0x3F ≤ b && b != 0x7F)

/-- Which scheme an address has. -/
inductive Scheme where
  | absent
  | plain
  | secure
  | other
  deriving DecidableEq, Repr

/-- The longest scheme. -/
def schemeLimit : Nat := 64

/-- The longest address. -/
def lengthLimit : Nat := 65534

/-- Whether the bytes begin with an ASCII text, the case of letters ignored. -/
def beginsWith (start : String) (bytes : Bytes) : Bool :=
  let letters := start.toList.map code
  let lower := fun b : UInt8 => if code 'A' ≤ b && b ≤ code 'Z' then b + 32 else b
  (bytes.take letters.length).map lower == letters

/-- Reads a scheme other than the two known ones, `passed` bytes into the address, and returns what
follows the mark behind it. -/
def readScheme (passed : Nat) : Bytes → Except AddressFault (Option Bytes)
  | [] => .ok none
  | b :: rest =>
    if b = code ':' then
      if rest.take 2 = [code '/', code '/'] then
        if schemeLimit < passed then .error .schemeTooLong else .ok (some (rest.drop 2))
      else .ok none
    else if isSchemeByte b then readScheme (passed + 1) rest
    else .ok none

/-- The scheme of an address, and what follows the mark behind it. -/
def splitScheme (bytes : Bytes) : Except AddressFault (Scheme × Bytes) :=
  if beginsWith "http://" bytes then .ok (.plain, bytes.drop 7)
  else if beginsWith "https://" bytes then .ok (.secure, bytes.drop 8)
  else if bytes.length ≤ 3 then .ok (.absent, bytes)
  else
    match readScheme 0 bytes with
    | .error fault => .error fault
    | .ok (some rest) => .ok (.other, rest)
    | .ok none => .ok (.absent, bytes)

/-- What has been seen of an authority: colons that may precede a port, brackets, a percent sign
outside the user, and whether the last byte was an at sign. -/
structure AuthorityScan where
  colons : Nat := 0
  opened : Bool := false
  closed : Bool := false
  percent : Bool := false
  atSign : Bool := false

/-- The most colons between two resets of their count. -/
def colonLimit : Nat := 8

/-- Takes one byte of an authority into account. -/
def AuthorityScan.push (s : AuthorityScan) (b : UInt8) : Except AddressFault AuthorityScan :=
  if b = code ':' then
    if colonLimit ≤ s.colons then .error .badAuthority
    else .ok { s with colons := s.colons + 1, atSign := false }
  else if b = code '[' then
    if s.percent || s.opened then .error .badAuthority
    else .ok { s with opened := true, atSign := false }
  else if b = code ']' then
    if !s.opened || s.closed then .error .badAuthority
    else .ok { s with closed := true, colons := 0, percent := false, atSign := false }
  else if b = code '@' then .ok { s with colons := 0, percent := false, atSign := true }
  else if b = code '%' then .ok { s with percent := true, atSign := false }
  else if isAuthorityByte b then .ok { s with atSign := false }
  else .error .badCharacter

/-- Whether an authority may end here. -/
def AuthorityScan.complete (s : AuthorityScan) : Bool :=
  s.opened == s.closed && s.colons ≤ 1 && !s.atSign && !s.percent

/-- Checks the authority at the start of the bytes and returns what follows it, from the first
slash, question mark or number sign on. -/
def readAuthority (s : AuthorityScan) : Bytes → Except AddressFault Bytes
  | [] => if s.complete then .ok [] else .error .badAuthority
  | b :: rest =>
    if among "/?#" b then
      if s.complete then .ok (b :: rest) else .error .badAuthority
    else
      match s.push b with
      | .error fault => .error fault
      | .ok s => readAuthority s rest

def checkQuery : Bytes → Except AddressFault Unit
  | [] => .ok ()
  | b :: rest =>
    if b = code '#' then .ok ()
    else if isQueryByte b then checkQuery rest
    else .error .badCharacter

/-- Checks a path and the query behind it.  What follows a number sign is ignored. -/
def checkPath : Bytes → Except AddressFault Unit
  | [] => .ok ()
  | b :: rest =>
    if b = code '?' then checkQuery rest
    else if b = code '#' then .ok ()
    else if isPathByte b then checkPath rest
    else .error .badCharacter

/-- Checks an address of at least two bytes that does not begin with a slash. -/
def checkFull (bytes : Bytes) : Except AddressFault Scheme := do
  let (scheme, rest) ← splitScheme bytes
  let path ← readAuthority {} rest
  if scheme = .absent then
    if path.isEmpty then .ok .absent else .error .badFormat
  else if path.length = rest.length then .error .badFormat
  else do
    checkPath path
    .ok scheme

/-- Checks an address on its bytes and returns its scheme. -/
def checkBytes (bytes : Bytes) : Except AddressFault Scheme :=
  if lengthLimit < bytes.length then .error .tooLong
  else
    match bytes with
    | [] => .error .empty
    | [b] =>
      if b = code '/' ∨ b = code '*' then .ok .absent
      else
        match readAuthority {} [b] with
        | .error fault => .error fault
        | .ok [] => .ok .absent
        | .ok _ => .error .badCharacter
    | b :: rest =>
      if b = code '/' then (checkPath (b :: rest)).map fun _ => .absent
      else checkFull (b :: rest)

/-- Checks an address and returns its scheme.  A local socket has none. -/
def check (address : String) : Except AddressFault Scheme :=
  if address.startsWith "unix:" then .ok .absent else checkBytes (utf8Bytes address)

end Address

end PubSub
