import ModerationGateway.Gateway.Forward

/-!
# The router

Three paths are the gateway's own; every other is forwarded.

* `version`: the version of the gateway;
* `Endpoint`, `endpoint?`: the gateway's own paths;
* `respond`: the answer to a request.
-/

namespace ModerationGateway.Gateway

open ModerationGateway.Http

variable {σ : Type}

/-- The name of the program. -/
def programName : String := "contentguard"

/-- The version of the gateway. -/
def version : String := "0.1.0"

/-- The gateway's own paths. -/
inductive Endpoint where
  | health
  | stats
  | reset
  deriving DecidableEq, Repr

/-- The endpoint of a path. -/
def endpoint? : String → Option Endpoint
  | "/health" => some .health
  | "/stats" => some .stats
  | "/stats/reset" => some .reset
  | _ => none

/-- The methods of an endpoint. -/
def Endpoint.methods : Endpoint → List String
  | .reset => ["POST"]
  | _ => ["GET", "HEAD"]

/-- The answer of an endpoint. -/
def Endpoint.answer (e : Endpoint) (s : State σ) : State σ × Json :=
  match e with
  | .health =>
    (s, .object [("service", .string programName), ("status", .string "healthy"),
      ("version", .string version)])
  | .stats => (s, s.summaryJson)
  | .reset => (s.resetStats, .object [("status", .string "reset")])

/-- The answer to a method that an endpoint does not have. -/
def notAllowed (e : Endpoint) : Response :=
  ⟨405, "", [("allow", Utf8.ofText (",".intercalate e.methods))], []⟩

/-- The answer to a request. A request for the head alone gets no body. -/
def respond (setup : Setup σ) (r : Request) (s : State σ) : State σ × Response :=
  match endpoint? r.path with
  | none => handle setup r s
  | some e =>
    if e.methods.contains r.method then
      let (s, body) := e.answer s
      let response := Response.json 200 body
      (s, if r.method = "HEAD" then { response with body := [] } else response)
    else (s, notAllowed e)

end ModerationGateway.Gateway
