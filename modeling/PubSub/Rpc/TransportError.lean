import PubSub.Rpc.Address
import PubSub.Rpc.Status

/-!
# Transport errors

Why no connection could be had.  Every error has one wording, a status that it is reported as, and
a verdict whether waiting and trying again may help: only a pool that is full can empty again.
-/

namespace PubSub

/-- Why a pool or a channel cannot be set up as asked. -/
inductive SetupFault where
  | noStreamsPerLink
  | noStreamLinks
  | noSubscriptions
  | noCallLinks
  | noScheduler
  /-- A channel cannot be secured: who answers could not be checked. -/
  | notSecured
  | other (text : String)
  deriving DecidableEq, Repr

/-- The wording of each fault. -/
def SetupFault.message : SetupFault → String
  | noStreamsPerLink => "streams per channel must be greater than zero"
  | noStreamLinks => "stream channel count must be greater than zero"
  | noSubscriptions => "max subscriptions must be greater than zero"
  | noCallLinks => "unary channel count must be greater than zero"
  | noScheduler => "stream pool must be created inside a Tokio runtime"
  | notSecured => "TLS setup failed: transport error"
  | other text => text

/-- Why there is no slot for a stream. -/
inductive Shortage where
  /-- So many streams are all that the links may carry, and no link may be added. -/
  | allTaken (active links limit : Nat)
  /-- Every link was visited and none had a free slot. -/
  | noneFree (limit links : Nat)
  | other (text : String)
  deriving DecidableEq, Repr

/-- The wording of each shortage. -/
def Shortage.message : Shortage → String
  | allTaken active links limit =>
    toString active ++ " active streams on " ++ toString links ++ " connections with a limit of "
      ++ toString limit ++ "; already at the maximum number of concurrent streams"
  | noneFree limit links =>
    "all connections may be at maximum capacity; " ++ toString limit
      ++ " total streams allowed across " ++ toString links ++ " connections"
  | other text => text

/-- Why no connection could be had. -/
inductive TransportError where
  | invalidAddress (fault : AddressFault)
  | connectionFailed (reason : String)
  | invalidSetup (fault : SetupFault)
  | exhausted (shortage : Shortage)
  | shuttingDown
  | connectionClosed
  deriving DecidableEq, Repr

namespace TransportError

/-- The wording of each error. -/
def message : TransportError → String
  | invalidAddress _ => "Invalid URI: invalid URI"
  | connectionFailed reason => "Connection failed: " ++ reason
  | invalidSetup fault => "Invalid configuration: " ++ fault.message
  | exhausted shortage => "Capacity exhausted: " ++ shortage.message
  | shuttingDown => "Connection pool is shutting down"
  | connectionClosed => "Connection has been closed"

/-- Whether waiting and trying again may help. -/
def recoverable : TransportError → Bool
  | exhausted _ => true
  | _ => false

/-- The status code that an error is reported as. -/
def code : TransportError → StatusCode
  | invalidAddress _ | invalidSetup _ => .invalidArgument
  | connectionFailed _ => .unavailable
  | exhausted _ => .resourceExhausted
  | shuttingDown | connectionClosed => .cancelled

/-- The status that an error is reported as. -/
def status (e : TransportError) : Status where
  code := e.code
  message := e.message

end TransportError

end PubSub
