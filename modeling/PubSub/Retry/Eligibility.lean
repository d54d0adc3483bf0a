import PubSub.Rpc.Method

/-!
# Eligibility

Which failures may be answered by sending the request again.  A request may be sent twice only if
that does no harm: opening a stream is safe, and publishing is not, since the value might be
delivered twice.
-/

namespace PubSub

/-- A rule that says which failures of which methods may be retried. -/
structure Eligibility where
  name : String
  accepts : StatusCode → String → Bool

namespace Eligibility

/-- The codes of failures that may go away by themselves. -/
def transientCodes : List StatusCode := [.internal, .unavailable]

/-- The methods that may be sent twice. -/
def repeatableMethods : List String := [subscribePath]

/-- Transient failures of repeatable methods. -/
def standard : Eligibility where
  name := "DefaultEligibilityStrategy"
  accepts code method := transientCodes.contains code && repeatableMethods.contains method

instance : Inhabited Eligibility := ⟨standard⟩

end Eligibility

end PubSub
