import PubSub.Rpc.Metadata
import PubSub.Rpc.Status

/-!
# Identity

Every request carries the token of the caller and a label that names the client and its version.
Both replace whatever stood under their names before.
-/

namespace PubSub

/-- Why no identity can be made. -/
inductive IdentityFault where
  | invalidToken
  | invalidClient
  deriving DecidableEq, Repr

/-- The wording of each fault. -/
def IdentityFault.message : IdentityFault → String
  | invalidToken => "Invalid auth token"
  | invalidClient => "Invalid client type"

/-- The status that a fault is reported as. -/
def IdentityFault.status (f : IdentityFault) : Status where
  code := .invalidArgument
  message := f.message

/-- The version that is told to the service. -/
def clientVersion : String := "0.1.0"

def agentLabel (client : String) : String := "rust:" ++ client ++ ":" ++ clientVersion

/-- The two values that identify the caller. -/
structure Identity where
  authorization : Bytes
  agent : Bytes
  deriving DecidableEq, Repr

namespace Identity

/-- The identity for a token and a kind of client.  Neither may hold control characters other than
tabs. -/
def of (token client : String) : Except IdentityFault Identity :=
  if !(utf8Bytes token).all isValueByte then .error .invalidToken
  else if !(utf8Bytes (agentLabel client)).all isValueByte then .error .invalidClient
  else .ok { authorization := utf8Bytes token, agent := utf8Bytes (agentLabel client) }

/-- Attaches an identity to the metadata of a request. -/
def attach (i : Identity) (m : Metadata) : Metadata :=
  (m.insert "authorization" i.authorization).insert "agent" i.agent

end Identity

end PubSub
