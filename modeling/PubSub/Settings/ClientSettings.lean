import PubSub.Pool.Shape
import PubSub.Retry.Policy
import PubSub.Rpc.Channel
import PubSub.Settings.Credentials

/-!
# Client settings

Everything that a client is made from: who it is, how many streams and calls it can have at a time,
how long it waits, and what it does about failures.

A positive number of subscriptions asks for an elastic stream pool with that budget; zero asks for
a fixed one.  A request timeout of zero means the usual one.
-/

namespace PubSub

/-- The usual time that a request may take. -/
def usualTimeout : Duration := .ofMillis 5000

/-- What a client is made from. -/
structure ClientSettings where
  credentials : Credentials
  maxSubscriptions : UInt32 := 0
  streamLinks : UInt64 := 4
  callLinks : UInt64 := 4
  requestTimeout : Duration := usualTimeout
  policy : PolicyKind := .standard
  reconnectDelay : Duration := .ofMillis 500
  channel : ChannelOptions := .standard

namespace ClientSettings

/-- A timeout that is not zero: the given one, or else the usual one. -/
def effectiveTimeout (d : Duration) : Duration := if d.isZero then usualTimeout else d

def withRequestTimeout (s : ClientSettings) (d : Duration) : ClientSettings :=
  { s with requestTimeout := effectiveTimeout d }

/-- The shape of the stream pool. -/
def poolShape (s : ClientSettings) : PoolShape where
  sizing :=
    if 0 < s.maxSubscriptions then .elastic s.maxSubscriptions.toNat
    else .fixed s.streamLinks.toNat

/-- Reads the word for a retry policy. -/
def readPolicy (text : String) : Except SettingFault PolicyKind :=
  match PolicyKind.ofWord? text with
  | some kind => .ok kind
  | none => .error (.unknownPolicy (Text.lowerAscii text))

/-- Reads a span of whole milliseconds. -/
def readMillis (text : String) : Except SettingFault Duration :=
  (readLong text).map Duration.ofMillis

/-- Reads settings from the environment. -/
def ofEnvironment (env : Environment) : Except SettingError ClientSettings := do
  let credentials ← Credentials.ofEnvironment env
  let usual : ClientSettings := { credentials }
  let maxSubscriptions ← env.readD readWord "TOPICS_MAX_SUBSCRIPTIONS" usual.maxSubscriptions
  let streamLinks ← env.readD readLong "TOPICS_NUM_STREAM_CHANNELS" usual.streamLinks
  let callLinks ← env.readD readLong "TOPICS_NUM_UNARY_CHANNELS" usual.callLinks
  let timeout ← env.readD readMillis "TOPICS_REQUEST_TIMEOUT_MS" usual.requestTimeout
  let policy ← env.readD readPolicy "TOPICS_RETRY_STRATEGY" usual.policy
  let reconnectDelay ← env.readD readMillis "TOPICS_RECONNECT_DELAY_MS" usual.reconnectDelay
  .ok
    { usual with
      maxSubscriptions, streamLinks, callLinks, policy, reconnectDelay
      requestTimeout := effectiveTimeout timeout }

end ClientSettings

end PubSub
