import PubSub.Settings.Environment
import PubSub.Text.Quoted
import PubSub.Text.Record

/-!
# Credentials

The two endpoints of the service and the token that identifies the caller.

Endpoints are brought to a normal form: without white space around them and without slashes at the
end.  An endpoint without a scheme is a secure one, and a bare host among these is reached on
port 443.
-/

namespace PubSub

/-- Whether a run of characters occurs in a text. -/
def containsRun (run : List Char) : List Char → Bool
  | [] => run.isEmpty
  | c :: cs => run.isPrefixOf (c :: cs) || containsRun run cs

/-- The mark behind a scheme. -/
def schemeMark : List Char := [':', '/', '/']

/-- The normal form of an endpoint. -/
def normalEndpointChars (raw : List Char) : List Char :=
  let core := Text.dropTrailing (· == '/') (Text.trimChars raw)
  if containsRun schemeMark core then core
  else if core.contains ':' then "https://".toList ++ core
  else "https://".toList ++ core ++ ":443".toList

/-- The normal form of an endpoint. -/
def normalEndpoint (raw : String) : String := String.ofList (normalEndpointChars raw.toList)

/-- Endpoints in normal form, and the token of the caller. -/
structure Credentials where
  cacheEndpoint : String
  controlEndpoint : String
  token : String
  deriving DecidableEq, Repr

namespace Credentials

/-- Credentials for endpoints as they were written. -/
def ofEndpoints (cache control token : String) : Credentials where
  cacheEndpoint := normalEndpoint cache
  controlEndpoint := normalEndpoint control
  token := token

/-- Whether requests to the cache endpoint are encrypted. -/
def secure (c : Credentials) : Bool := "https://".toList.isPrefixOf c.cacheEndpoint.toList

/-- The diagnostic text of credentials, which does not show the token. -/
def text (c : Credentials) : String :=
  Text.recordText "MomentoCredentials"
    [("cache_endpoint", Text.quoted c.cacheEndpoint),
     ("control_endpoint", Text.quoted c.controlEndpoint),
     ("auth_token", Text.quoted "<redacted>")]

/-- Reads credentials from the environment.  The control endpoint is the cache endpoint unless it is
set. -/
def ofEnvironment (env : Environment) : Except SettingError Credentials := do
  let token ← env.require "MOMENTO_AUTH_TOKEN"
  let cache ← env.require "MOMENTO_CACHE_ENDPOINT"
  let control := env.getD "MOMENTO_CONTROL_ENDPOINT" cache
  if Text.allBlank token then .error (.malformed "MOMENTO_AUTH_TOKEN" .blankToken)
  else .ok (ofEndpoints cache control token)

end Credentials

end PubSub
