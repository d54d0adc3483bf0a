import PubSub.Rpc.TransportError
import PubSub.Settings.SettingError
import PubSub.Topic.Event
import PubSub.Wire.DeliveryText

/-!
# Topic errors

Why an operation on a topic failed, for callers of the client.  Every error has one wording, a
status code for callers that branch on codes, and a verdict whether trying again may help.
-/

namespace PubSub

/-- What is wrong with an argument. -/
inductive ArgumentFault where
  | blankCache
  | blankTopic
  | invalidToken
  | other (text : String)
  deriving DecidableEq, Repr

/-- The wording of each fault. -/
def ArgumentFault.message : ArgumentFault → String
  | blankCache => "Cache name must be a non-empty string"
  | blankTopic => "Topic name must be a non-empty string"
  | invalidToken => "Invalid auth token"
  | other text => text

/-- What did not happen in time. -/
inductive Lateness where
  | notEstablished (message : String)
  | noFirstMessage
  | other (text : String)
  deriving DecidableEq, Repr

/-- The wording of each delay. -/
def Lateness.message : Lateness → String
  | notEstablished message => "subscription was not established in time: " ++ message
  | noFirstMessage => "subscription did not receive first message within the expected time"
  | other text => text

/-- What came instead of the message that was due. -/
inductive Surprise where
  | fault (f : MessageFault)
  | notHeartbeat (d : Delivery)
  | noHeartbeat
  | other (text : String)
  deriving DecidableEq, Repr

/-- The wording of each surprise. -/
def Surprise.message : Surprise → String
  | fault f => f.message
  | notHeartbeat d => "expected a heartbeat message, got: " ++ d.text
  | noHeartbeat => "subscription ended before the first heartbeat"
  | other text => text

/-- Why an operation on a topic failed. -/
inductive TopicError where
  | invalidArgument (fault : ArgumentFault)
  | transport (e : TransportError)
  | service (s : Status)
  | timeout (l : Lateness)
  | unexpected (s : Surprise)
  | setting (e : SettingError)
  deriving DecidableEq, Repr

namespace TopicError

/-- The wording of each error. -/
def message : TopicError → String
  | invalidArgument fault => "Invalid argument: " ++ fault.message
  | transport e => "Transport error: " ++ e.message
  | service s => "Service error: " ++ s.code.description ++ ": " ++ s.message
  | timeout l => "Request timeout: " ++ l.message
  | unexpected s => "Unexpected message: " ++ s.message
  | setting e => "Configuration error: " ++ e.message

/-- The status code for callers that branch on codes. -/
def code : TopicError → StatusCode
  | invalidArgument _ | setting _ => .invalidArgument
  | transport e => e.code
  | service s => s.code
  | timeout _ => .deadlineExceeded
  | unexpected _ => .internal

/-- Whether waiting and trying again may help. -/
def recoverable : TopicError → Bool
  | transport e => e.recoverable
  | service s => s.code == .unavailable || s.code == .resourceExhausted || s.code == .internal
  | timeout _ => true
  | _ => false

end TopicError

end PubSub
