import PubSub.Rpc.IpAddress

/-!
# Hosts

The machine that an address names and the port on it, and the names by which it can be checked who
answers there: a domain name, or a number.

A domain name has labels of letters, digits, hyphens and underscores, separated by dots.  A label
neither begins nor ends with a hyphen, and the last one is not a number.  One dot may end the name.
-/

namespace PubSub

namespace Address

/-! ## The parts of an address -/

/-- What follows the last byte of a kind, or everything if there is none. -/
def afterLast (b : UInt8) (bytes : Bytes) : Bytes :=
  (bytes.reverse.takeWhile (· != b)).reverse

/-- The authority at the start of the bytes. -/
def authority (bytes : Bytes) : Bytes := bytes.takeWhile fun b => !among "/?#" b

/-- The host in an authority: without the user in front and the port behind.  Brackets stay. -/
def hostOfAuthority (authority : Bytes) : Bytes :=
  let machine := afterLast (code '@') authority
  if machine.head? = some (code '[') then machine.takeWhile (· != code ']') ++ [code ']']
  else machine.takeWhile (· != code ':')

/-- A host without the brackets around it. -/
def withoutBrackets (host : Bytes) : Bytes :=
  if host.head? = some (code '[') then (host.drop 1).dropLast else host

/-- The host of an address that has a scheme, without brackets. -/
def host (bytes : Bytes) : Bytes :=
  match splitScheme bytes with
  | .ok (_, rest) => withoutBrackets (hostOfAuthority (authority rest))
  | .error _ => []

/-- The port in an authority, if what follows its last colon is one. -/
def portOfAuthority? (authority : Bytes) : Option Nat :=
  if authority.contains (code ':') then
    (Text.readNumeral UInt16.size (asciiChars (afterLast (code ':') authority))).toOption
  else none

/-- The port of an address that has a scheme; without a port it is the usual one of the scheme. -/
def port (bytes : Bytes) : Nat :=
  match splitScheme bytes with
  | .ok (scheme, rest) =>
    (portOfAuthority? (authority rest)).getD (if scheme = .secure then 443 else 80)
  | .error _ => 80

/-- The path that a request to an address asks for.  An authority alone has none. -/
def path (bytes : Bytes) : Bytes :=
  let upToQuery (rest : Bytes) : Bytes := rest.takeWhile fun b => !among "?#" b
  if bytes.head? = some (code '/') ∨ bytes = [code '*'] then upToQuery bytes
  else
    match splitScheme bytes with
    | .ok (.absent, _) | .error _ => []
    | .ok (_, rest) =>
      let path := upToQuery (rest.drop (authority rest).length)
      if path.isEmpty then [code '/'] else path

/-! ## Names -/

/-- The longest label of a domain name. -/
def labelLimit : Nat := 63

/-- The longest domain name. -/
def domainLimit : Nat := 253

/-- Letters, digits, hyphens and underscores. -/
def isNameByte (b : UInt8) : Bool := isAlphanumeric b || among "-_" b

/-- Whether bytes are a label of a domain name. -/
def isLabel (label : Bytes) : Bool :=
  !label.isEmpty && label.length ≤ labelLimit && label.all isNameByte
    && label.head? != some (code '-') && label.getLast? != some (code '-')

/-- The labels of a name, without the empty one behind a dot at the end. -/
def labels (host : Bytes) : List Bytes :=
  let parts := splitAt (code '.') host
  if parts.getLast? = some [] then parts.dropLast else parts

def isDomainName (host : Bytes) : Bool :=
  host.length ≤ domainLimit && (labels host).all isLabel
    && ((labels host).getLast?).any fun label => !label.all isDigitByte

/-- Whether a secure channel can check who answers as a host. -/
def isServerName (host : Bytes) : Bool := isDomainName host || (IpAddress.read? host).isSome

/-- Whether the name server can be asked about a host: it is told labels, of which only the first is
kept from beginning with a hyphen, or the root. -/
def isAskable (host : Bytes) : Bool :=
  let isPart (label : Bytes) : Bool :=
    !label.isEmpty && label.length ≤ labelLimit && label.all isNameByte
  let size := if host.getLast? = some (code '.') then host.length - 1 else host.length
  host == [code '.'] ||
    (!host.isEmpty && size ≤ domainLimit && host.head? != some (code '-')
      && (labels host).all isPart)

end Address

end PubSub
