import PubSub.Command.Run

/-!
# Causes

Why a command failed.  The outermost cause says what was being done; behind it comes the error, and
behind that what the error goes back to.
-/

namespace PubSub

/-- The wording of a status on its own: the description of the code, and the message and the origin
if there are any. -/
def Status.text (s : Status) : String :=
  let code := "code: '" ++ s.code.description ++ "'"
  let message := if s.message.isEmpty then "" else ", message: " ++ Text.quoted s.message
  let origin := (s.origin.map fun o => ", source: " ++ o.text).getD ""
  code ++ message ++ origin

/-- A status and what it goes back to. -/
def Status.causes (s : Status) : List String := s.text :: (s.origin.map (·.causes)).getD []

/-- A transport error and what it goes back to. -/
def TransportError.causes (e : TransportError) : List String :=
  match e with
  | .invalidAddress fault => [e.message, "invalid URI", fault.message]
  | _ => [e.message]

/-- A topic error and what it goes back to. -/
def TopicError.causes (e : TopicError) : List String :=
  match e with
  | .transport inner => e.message :: inner.causes
  | .service s => e.message :: s.causes
  | .setting inner => [e.message, inner.message]
  | _ => [e.message]

namespace Command

/-- What was being done, and why it failed. -/
def Error.causes : Error → List String
  | settings e => ["Failed to load topics configuration", e.message]
  | client e => "Failed to create topic client" :: e.causes
  | publish number count e =>
    ("Failed to publish message " ++ toString number ++ " of " ++ toString count) :: e.causes
  | subscribe cache topic e => ("Failed to subscribe to " ++ cache ++ "/" ++ topic) :: e.causes
  | event e => "Subscription failed" :: e.causes

/-- The causes of a failure. -/
def Ending.causes : Ending → List String
  | failure e => e.causes
  | _ => []

end Command

end PubSub
