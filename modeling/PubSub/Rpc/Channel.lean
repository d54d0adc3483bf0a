import PubSub.Rpc.Host
import PubSub.Rpc.TransportError
import PubSub.Time.Duration

/-!
# Channels

Options of a channel and the rule that decides whether one can be opened.  Opening is lazy: the
address and the options are checked, and nothing is sent until the first call.  A secure address
needs trusted root certificates on this machine and a host whose name can be checked.
-/

namespace PubSub

/-- Options of a channel.  The defaults suit long-lived streams: keep-alive pings go on while no
call is active, so that a broken connection is noticed soon. -/
structure ChannelOptions where
  connectTimeout : Duration := .ofMillis 5000
  timeout : Option Duration := none
  keepAliveInterval : Option Duration := some (.ofMillis 5000)
  keepAliveTimeout : Duration := .ofMillis 1000
  keepAliveWhileIdle : Bool := true
  connectionWindow : Option Nat := some (1024 * 1024)
  streamWindow : Option Nat := some (1024 * 1024)
  adaptiveWindow : Bool := true
  tcpNoDelay : Bool := true
  tcpKeepAlive : Option Duration := some (.ofMillis 30000)
  sendLimit : Nat := 5 * 1024 * 1024
  receiveLimit : Nat := 5 * 1024 * 1024
  deriving DecidableEq, Repr

namespace ChannelOptions

/-- The options that apply unless others are set. -/
def standard : ChannelOptions := {}

def withConnectTimeout (o : ChannelOptions) (d : Duration) : ChannelOptions :=
  { o with connectTimeout := d }

/-- Bounds every call on the channel. -/
def withRequestTimeout (o : ChannelOptions) (d : Duration) : ChannelOptions :=
  { o with timeout := some d }

def withKeepAliveInterval (o : ChannelOptions) (d : Duration) : ChannelOptions :=
  { o with keepAliveInterval := some d }

/-- Switches keep-alive pings off. -/
def withoutKeepAlive (o : ChannelOptions) : ChannelOptions :=
  { o with keepAliveInterval := none, keepAliveWhileIdle := false }

/-- Sets the window of the connection and that of each stream. -/
def withWindow (o : ChannelOptions) (size : Nat) : ChannelOptions :=
  { o with connectionWindow := some size, streamWindow := some size }

/-- Sets the limits for sent and for received messages. -/
def withMessageLimit (o : ChannelOptions) (limit : Nat) : ChannelOptions :=
  { o with sendLimit := limit, receiveLimit := limit }

end ChannelOptions

/-- Whether a channel to an address can be opened on a machine with or without trusted roots. -/
def checkChannel (address : String) (trustedRoots : Bool) : Except TransportError Unit :=
  match Address.check address with
  | .error fault => .error (.invalidAddress fault)
  | .ok .secure =>
    if trustedRoots && Address.isServerName (Address.host (utf8Bytes address)) then .ok ()
    else .error (.invalidSetup .notSecured)
  | .ok _ => .ok ()

end PubSub
