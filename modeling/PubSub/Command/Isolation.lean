import PubSub.Client.Service
import PubSub.Rpc.Host
import PubSub.Text.Quoted
import PubSub.Text.Record

/-!
# Isolation

How a call fails on a machine without a network.  Only this machine's own name has a number there,
no number leads anywhere, and no local socket exists.  An address that is a path alone names no
machine at all, which is a mistake of the caller and not a state of the network.

The wordings are those of the system and of the libraries between it and a client.  Only the
program, which is run in such surroundings, uses them; a client takes any service.
-/

namespace PubSub

/-! ## Faults of the system -/

/-- Why the system refuses a connection. -/
inductive SystemFault where
  | noSuchFile
  | invalidArgument
  | addressNotAvailable
  | networkUnreachable
  deriving DecidableEq, Repr

namespace SystemFault

def number : SystemFault → Nat
  | noSuchFile => 2
  | invalidArgument => 22
  | addressNotAvailable => 99
  | networkUnreachable => 101

def kind : SystemFault → String
  | noSuchFile => "NotFound"
  | invalidArgument => "InvalidInput"
  | addressNotAvailable => "AddrNotAvailable"
  | networkUnreachable => "NetworkUnreachable"

/-- The wording of each fault without its number. -/
def wording : SystemFault → String
  | noSuchFile => "No such file or directory"
  | invalidArgument => "Invalid argument"
  | addressNotAvailable => "Cannot assign requested address"
  | networkUnreachable => "Network is unreachable"

def message (f : SystemFault) : String :=
  f.wording ++ " (os error " ++ toString f.number ++ ")"

/-- The diagnostic text of each fault. -/
def text (f : SystemFault) : String :=
  Text.recordText "Os"
    [("code", toString f.number), ("kind", f.kind), ("message", Text.quoted f.wording)]

end SystemFault

/-! ## Where a connection is made to -/

/-- A machine, the zone in which its number counts, and a port. -/
structure Endpoint where
  machine : IpAddress
  /-- Zero if the number counts everywhere. -/
  zone : Nat := 0
  port : Nat
  deriving DecidableEq, Repr

namespace Endpoint

def text (e : Endpoint) : String :=
  match e.machine with
  | .four _ => e.machine.text ++ ":" ++ toString e.port
  | .six _ =>
    let zone := if e.zone = 0 then "" else "%" ++ toString e.zone
    "[" ++ e.machine.text ++ zone ++ "]:" ++ toString e.port

/-- Why no connection to an endpoint can be made without a network.  A link-local number needs a
zone, and otherwise the greater numbers lack an address to connect from; the lesser ones, the
greater ones that stand for them, and those of groups of machines lack a way. -/
def fault (e : Endpoint) : SystemFault :=
  match e.machine with
  | .four _ => .networkUnreachable
  | .six groups =>
    let first := ((groups.head?).getD 0).toNat
    if groups.take 6 = [0, 0, 0, 0, 0, 0xFFFF] ∨ 0xFF00 ≤ first then .networkUnreachable
    else if 0xFE80 ≤ first ∧ first < 0xFEC0 ∧ e.zone = 0 then .invalidArgument
    else .addressNotAvailable

end Endpoint

namespace Address

/-- Reads a number of a machine and the number of a zone behind a percent sign. -/
def readZoned? (host : Bytes) : Option (IpAddress × Nat) :=
  let number := host.takeWhile (· != code '%')
  match IpAddress.readSix? number with
  | none => none
  | some groups =>
    if number.length = host.length then some (.six groups, 0)
    else
      let zone := IpAddress.readDigits? 10 (host.drop (number.length + 1))
      (zone.filter (· < UInt32.size)).map fun zone => (.six groups, zone)

/-- The machine with a name that need not be asked for, and the zone of its number. -/
def machine? (host : Bytes) : Option (IpAddress × Nat) :=
  match IpAddress.readLoose? host with
  | some number => some (.four number, 0)
  | none =>
    if (asciiChars host).map Char.toLower = "localhost".toList then
      some (.four (IpAddress.ofOctets [127, 0, 0, 1]), 0)
    else readZoned? host

end Address

/-! ## How a call fails -/

/-- Why a call fails on a machine without a network. -/
inductive IsolationFault where
  /-- The address names no machine. -/
  | noMachine
  /-- The path of a local socket is longer than such paths can be. -/
  | socketTooLong
  | noSocket
  /-- The machine is not known by its name, about which a name server could be asked or not. -/
  | unknownName (askable : Bool)
  | noWay (e : Endpoint)
  deriving DecidableEq, Repr

namespace IsolationFault

/-- The longest path of a local socket. -/
def socketPathLimit : Nat := 107

/-- Why a call to an address fails. -/
def ofAddress (address : String) : IsolationFault :=
  let bytes := utf8Bytes address
  if address.startsWith "unix:" then
    if socketPathLimit < bytes.length - 5 then .socketTooLong else .noSocket
  else if bytes.head? = some (Address.code '/') then .noMachine
  else
    let host := Address.host bytes
    match Address.machine? host with
    | some (machine, zone) => .noWay { machine, zone, port := Address.port bytes }
    | none => .unknownName (Address.isAskable host)

/-- The wording of a failed look-up. -/
def lookupMessage (askable : Bool) : String :=
  "failed to lookup address information: " ++
    if askable then "Temporary failure in name resolution" else "Name or service not known"

/-- The wording of a path that is too long. -/
def socketMessage : String := "path must be shorter than SUN_LEN"

def message : IsolationFault → String
  | noMachine => "transport error"
  | socketTooLong => socketMessage
  | noSocket => SystemFault.noSuchFile.message
  | unknownName _ => "dns error"
  | noWay _ => "tcp connect error"

/-- The diagnostic text of what went wrong with the connection. -/
def connectionText : IsolationFault → String
  | noMachine => Text.applied "tonic::transport::Error" "InvalidUri"
  | socketTooLong =>
    connectError [Text.recordText "Error"
      [("kind", "InvalidInput"), ("message", Text.quoted socketMessage)]]
  | noSocket => connectError [SystemFault.noSuchFile.text]
  | unknownName askable =>
    connectError [Text.quoted "dns error", Text.recordText "Custom"
      [("kind", "Uncategorized"), ("error", Text.quoted (lookupMessage askable))]]
  | noWay e => connectError [Text.quoted "tcp connect error", e.text, e.fault.text]
where
  connectError (parts : List String) : String :=
    Text.applied "ConnectError" (Text.applied "ConnectError" (Text.commaSeparated parts))

/-- What went wrong with the connection, the nearest cause first. -/
def connectionCauses : IsolationFault → List String
  | noMachine => ["invalid URI"]
  | socketTooLong => List.replicate 3 socketMessage
  | noSocket => List.replicate 3 SystemFault.noSuchFile.message
  | unknownName askable => ["dns error", "dns error", lookupMessage askable]
  | noWay e => ["tcp connect error", "tcp connect error", e.fault.message]

/-- What a failed call goes back to. -/
def origin (f : IsolationFault) : Origin where
  text := Text.applied "tonic::transport::Error"
    (Text.commaSeparated ["Transport", f.connectionText])
  causes := "transport error" :: f.connectionCauses

/-- The status with which a call fails. -/
def status (f : IsolationFault) : Status where
  code := if f = .noMachine then .unknown else .unavailable
  message := f.message
  origin := some f.origin

end IsolationFault

/-! ## Services out of reach -/

/-- A call to a service that cannot be reached is refused after a moment. -/
def refusedWork {α : Type} (endpoint : String) : Work α where
  takes := some (.ofMicros 200)
  result := .error (IsolationFault.ofAddress endpoint).status

/-- A service that cannot be reached under its endpoint. -/
def Service.unreachable (endpoint : String) : Service where
  publish _ _ := refusedWork endpoint
  subscribe _ _ := refusedWork endpoint
  reachable := false

end PubSub
