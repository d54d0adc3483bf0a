import PubSub.Rpc.Host
import PubSub.Rpc.Status

/-!
# Methods

The two calls that the service offers, and its answer to a call without a message.
-/

namespace PubSub

/-- The path of the call that publishes a value. -/
def publishPath : String := "/cache_client.pubsub.Pubsub/Publish"

/-- The path of the call that opens a stream of deliveries. -/
def subscribePath : String := "/cache_client.pubsub.Pubsub/Subscribe"

/-- What a server says to a call. -/
structure ServerAnswer where
  http : Nat
  code : StatusCode
  contentType : String
  deriving DecidableEq, Repr

/-- The answer to a call without a message: a known method misses its message, and any other path
is not implemented.  What is not an address cannot be called. -/
def answerWithoutMessage (address : String) : Except AddressFault ServerAnswer := do
  let bytes := utf8Bytes address
  let _ ← Address.checkBytes bytes
  let known := [publishPath, subscribePath].any fun path => Address.path bytes == utf8Bytes path
  return {
    http := 200
    code := if known then .internal else .unimplemented
    contentType := "application/grpc" }

def StatusCode.number (c : StatusCode) : Nat := StatusCode.all.idxOf c

end PubSub
