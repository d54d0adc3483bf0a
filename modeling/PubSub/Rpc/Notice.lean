import PubSub.Rpc.TransportError

/-!
# Notices

What the library reports beside its answers: warnings and errors, and the milestones of the command
line.  Each notice has a level, a text and a list of named values.
-/

namespace PubSub

/-- How urgent a notice is. -/
inductive Level where
  | info
  | warning
  | error
  deriving DecidableEq, Repr

inductive NoticeValue where
  | text (s : String)
  | number (n : Nat)
  deriving DecidableEq, Repr

/-- Something worth reporting. -/
inductive Notice where
  | invalidAddress (address : String) (fault : AddressFault)
  | invalidOptions (address : String) (e : TransportError)
  /-- Link number `link` of `requested` could not be made, and the others are given up. -/
  | linkNotBuilt (link requested : Nat) (e : TransportError)
  /-- The pool has `links` links and could not get another one. -/
  | linkNotAdded (links : Nat) (e : TransportError)
  | linkNotClosed (link : Nat) (e : TransportError)
  /-- The pool cannot grow and only `remaining` of `total` slots are free. -/
  | nearLimit (remaining total : Nat)
  /-- The service refused for lack of resources. -/
  | accountLimit (message : String)
  | streamBroken (topic : String) (code : StatusCode)
  | started (stage : String)
  | published (cache topic : String) (count : Nat)
  | subscribed (cache topic : String)
  | finished (received : Nat)
  deriving DecidableEq, Repr

namespace Notice

/-- How urgent each notice is. -/
def level : Notice → Level
  | invalidAddress .. | invalidOptions .. | linkNotBuilt .. | linkNotAdded .. | linkNotClosed .. =>
    .error
  | nearLimit .. | accountLimit .. | streamBroken .. => .warning
  | started .. | published .. | subscribed .. | finished .. => .info

/-- The part of the program that a notice comes from. -/
def source : Notice → String
  | invalidAddress .. | invalidOptions .. | linkNotBuilt .. | linkNotAdded .. | linkNotClosed ..
  | nearLimit .. => "grpc_client"
  | accountLimit .. | streamBroken .. => "domain_topics"
  | started .. => "core_config::tracing"
  | published .. | subscribed .. | finished .. => "topics_cli"

def text : Notice → String
  | invalidAddress .. => "Invalid URI"
  | invalidOptions .. => "Invalid channel configuration"
  | linkNotBuilt .. => "Failed to create connection manager, discarding partial pool"
  | linkNotAdded .. => "Failed to add connection manager"
  | linkNotClosed .. => "Error closing connection manager"
  | nearLimit .. => "Approaching maximum concurrent stream limit"
  | accountLimit .. => "Topic subscription limit reached for this account"
  | streamBroken .. => "Subscription stream disconnected; resuming"
  | started stage => "Tracing initialized with ErrorLayer. Environment: " ++ stage
  | published .. => "Published"
  | subscribed .. => "Subscribed"
  | finished .. => "Subscription finished"

/-- The named values of each notice. -/
def fields : Notice → List (String × NoticeValue)
  | invalidAddress address fault =>
    [("addr", .text address),
     ("error", .text ("tonic::transport::Error(InvalidUri, InvalidUri(" ++ fault.name ++ "))"))]
  | invalidOptions address e => [("addr", .text address), ("error", .text e.message)]
  | linkNotBuilt link requested e =>
    [("manager", .number link), ("requested", .number requested), ("error", .text e.message)]
  | linkNotAdded links e => [("managers", .number links), ("error", .text e.message)]
  | linkNotClosed link e => [("manager", .number link), ("error", .text e.message)]
  | nearLimit remaining total => [("remaining", .number remaining), ("total", .number total)]
  | accountLimit message => [("message", .text message)]
  | streamBroken topic code => [("topic", .text topic), ("code", .text code.name)]
  | started _ => []
  | published cache topic count =>
    [("cache", .text cache), ("topic", .text topic), ("count", .number count)]
  | subscribed cache topic => [("cache", .text cache), ("topic", .text topic)]
  | finished received => [("received", .number received)]

end Notice

/-- What is reported when a channel cannot be opened. -/
def channelNotice (address : String) : TransportError → Notice
  | .invalidAddress fault => .invalidAddress address fault
  | e => .invalidOptions address e

end PubSub
