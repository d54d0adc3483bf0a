/-!
# Call statuses

The seventeen status codes of a remote call, in the order of their numbers, with the description of
each, and a status as a code with a message and an origin.
-/

namespace PubSub

/-- How a remote call ended. -/
inductive StatusCode where
  | ok
  | cancelled
  | unknown
  | invalidArgument
  | deadlineExceeded
  | notFound
  | alreadyExists
  | permissionDenied
  | resourceExhausted
  | failedPrecondition
  | aborted
  | outOfRange
  | unimplemented
  | internal
  | unavailable
  | dataLoss
  | unauthenticated
  deriving DecidableEq, Repr

namespace StatusCode

/-- Every code, in the order of the numbers. -/
def all : List StatusCode :=
  [.ok, .cancelled, .unknown, .invalidArgument, .deadlineExceeded, .notFound, .alreadyExists,
   .permissionDenied, .resourceExhausted, .failedPrecondition, .aborted, .outOfRange,
   .unimplemented, .internal, .unavailable, .dataLoss, .unauthenticated]

/-- The name of a code in diagnostic output. -/
def name : StatusCode → String
  | .ok => "Ok"
  | .cancelled => "Cancelled"
  | .unknown => "Unknown"
  | .invalidArgument => "InvalidArgument"
  | .deadlineExceeded => "DeadlineExceeded"
  | .notFound => "NotFound"
  | .alreadyExists => "AlreadyExists"
  | .permissionDenied => "PermissionDenied"
  | .resourceExhausted => "ResourceExhausted"
  | .failedPrecondition => "FailedPrecondition"
  | .aborted => "Aborted"
  | .outOfRange => "OutOfRange"
  | .unimplemented => "Unimplemented"
  | .internal => "Internal"
  | .unavailable => "Unavailable"
  | .dataLoss => "DataLoss"
  | .unauthenticated => "Unauthenticated"

def ofName? (s : String) : Option StatusCode :=
  all.find? fun c => c.name == s

/-- What a code means, in one sentence. -/
def description : StatusCode → String
  | .ok => "The operation completed successfully"
  | .cancelled => "The operation was cancelled"
  | .unknown => "Unknown error"
  | .invalidArgument => "Client specified an invalid argument"
  | .deadlineExceeded => "Deadline expired before operation could complete"
  | .notFound => "Some requested entity was not found"
  | .alreadyExists => "Some entity that we attempted to create already exists"
  | .permissionDenied =>
    "The caller does not have permission to execute the specified operation"
  | .resourceExhausted => "Some resource has been exhausted"
  | .failedPrecondition =>
    "The system is not in a state required for the operation's execution"
  | .aborted => "The operation was aborted"
  | .outOfRange => "Operation was attempted past the valid range"
  | .unimplemented => "Operation is not implemented or not supported"
  | .internal => "Internal error"
  | .unavailable => "The service is currently unavailable"
  | .dataLoss => "Unrecoverable data loss or corruption"
  | .unauthenticated => "The request does not have valid authentication credentials"

end StatusCode

/-- What a failure goes back to: its diagnostic text, and the wording of each cause, the nearest
first. -/
structure Origin where
  text : String
  causes : List String
  deriving DecidableEq, Repr

/-- A code and what was said about it, and what it goes back to if it did not come from the far
side. -/
structure Status where
  code : StatusCode
  message : String
  origin : Option Origin := none
  deriving DecidableEq, Repr

end PubSub
