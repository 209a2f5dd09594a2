import ModerationGateway.Number.Shortest

/-!
# Failures of requests

* `Failure`: why a request has no answer that can be used;
* `Failure.message`: the wording.
-/

namespace ModerationGateway.Http

/-- Why a request has no answer that can be used. -/
inductive Failure where
  /-- The address means nothing. -/
  | noAddress
  /-- The address is not one that can be asked. -/
  | otherAddress (url : String)
  /-- Nobody answered. -/
  | unanswered (url : String)
  /-- The request was sent on too often. -/
  | sentAround (url : String)
  /-- The status tells of a failure. -/
  | refused (status : Nat) (reason url : String)
  /-- The body did not come, or was no document. -/
  | undecodable
  deriving DecidableEq, Repr

namespace Failure

/-- The place of a failure. -/
def forUrl (url : String) : String := " for url (" ++ url ++ ")"

/-- The wording of a failure. -/
def message : Failure → String
  | noAddress => "builder error"
  | otherAddress url => "builder error" ++ forUrl url
  | unanswered url => "error sending request" ++ forUrl url
  | sentAround url => "error following redirect" ++ forUrl url
  | refused status reason url =>
    "HTTP status " ++ (if status < 500 then "client" else "server") ++ " error (" ++
      decimalText status ++ " " ++ reason ++ ")" ++ forUrl url
  | undecodable => "error decoding response body"

end Failure

end ModerationGateway.Http
