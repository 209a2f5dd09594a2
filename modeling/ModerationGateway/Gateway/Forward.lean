import ModerationGateway.Gateway.Moderated
import ModerationGateway.Moderation.Screening

/-!
# Forwarding requests

* `address`, `outgoing`: where a request goes, and with which headers;
* `forward`: the request is sent on;
* `bypass`: a request on a path without a rule;
* `underRule`: a request on a path with one: it is screened, forwarded, and the response moderated;
* `handle`: any request.
-/

namespace ModerationGateway.Gateway

open ModerationGateway.Http ModerationGateway.Moderation

variable {σ : Type}

/-- A text without the slashes at its end. -/
def withoutSlashes (s : String) : String :=
  String.ofList ((s.toList.reverse.dropWhile (· == '/')).reverse)

/-- Where a request goes. -/
def address (proxy : ProxySettings) (r : Request) : String :=
  withoutSlashes proxy.backend ++ r.pathAndQuery

/-- The headers with the gateway's own key, if the client sends none and the key can be sent. -/
def authorized (apiKey : Option String) (h : Headers) : Headers :=
  match apiKey with
  | none => h
  | some key =>
    let value := "Bearer " ++ key
    if h.has "authorization" ∨ !Headers.isValue (Utf8.ofText value) then h
    else h.set "authorization" value

/-- The headers that a request goes with. A response that is to be moderated must not be encoded. -/
def outgoing (proxy : ProxySettings) (moderated : Bool) (h : Headers) : Headers :=
  let h := authorized proxy.apiKey (forwardable h)
  if moderated then h.set "accept-encoding" "identity" else h

/-- Send a request on. -/
def forward (setup : Setup σ) (moderated : Bool) (r : Request) (s : State σ) :
    Except Failure Response × State σ :=
  let proxy := setup.config.proxy
  let (answer, peers) := send setup.exchange r.method (address proxy r)
    (outgoing proxy moderated r.headers) r.body s.world.peers
  (answer.map (·.2), { s with world := { s.world with peers } })

/-- What a client is told when a request could not be sent on. -/
def unreachable (f : Failure) : Response :=
  proxyError 502 ("Failed to connect to upstream: " ++ f.message)

/-- A request on a path without a rule. -/
def bypass (setup : Setup σ) (r : Request) (came : Nat) (s : State σ) : State σ × Response :=
  match forward setup false r (s.count Stats.recordBypassed) with
  | (.ok response, s) => (s.answered came, passed response)
  | (.error f, s) => ((s.count Stats.recordError).answered came, unreachable f)

/-- Send on a request that was screened, and moderate the response if there is a gate. -/
def relay (setup : Setup σ) (rule : Rule) (gate : Option (Gate σ)) (r : Request) (came : Nat)
    (s : State σ) : State σ × Response :=
  match forward setup gate.isSome r s with
  | (.error f, s) => (s.count Stats.recordError, unreachable f)
  | (.ok response, s) =>
    match gate with
    | none => (s.answered came, passed response)
    | some g =>
      if response.isSuccess then moderate rule g response came s
      else (s.answered came, passed response)

/-- Screen a request, and send it on if nothing is found. -/
def screened (setup : Setup σ) (rule : Rule) (gate : Option (Gate σ)) (r : Request) (came : Nat)
    (s : State σ) : State σ × Response :=
  let (matchers, screening) :=
    screen rule.sensitiveWords (gate.map (·.settings)) r.body s.matchers setup.words
  let (outcome, world) := screening.run (Gate.judgeOf gate) s.world
  let s := { s with matchers, world }
  match outcome with
  | .allowed => relay setup rule gate r came s
  | .rejected status e => ((s.count Stats.recordBlocked).answered came, enveloped status e)

/-- The policy of a rule; the safe one if it has no content security. -/
def policyOf (rule : Rule) : FailurePolicy :=
  (rule.contentSecurity.map (·.failurePolicy)).getD .failClosed

/-- A request on a path with a rule. A checker that is not to be had leaves the request to the
policy of the rule. -/
def underRule (setup : Setup σ) (rule : Rule) (r : Request) (came : Nat) (s : State σ) :
    State σ × Response :=
  match Gate.ofRule rule setup.checkers s.world with
  | .ok (gate, world) => screened setup rule gate r came { s with world }
  | .error fault =>
    match policyOf rule with
    | .failOpen => screened setup rule none r came s
    | .failClosed => (s.count Stats.recordError, enveloped 503 (.unavailable fault.code))

/-- Answer any request. -/
def handle (setup : Setup σ) (r : Request) (s : State σ) : State σ × Response :=
  if setup.config.proxy.maxBodySize.toNat < r.body.length then
    (s.count Stats.recordError,
      proxyError 413 "Failed to read request body: length limit exceeded")
  else
    match setup.rules.resolve r.path with
    | none => bypass setup r s.world.now s
    | some rule => underRule setup rule r s.world.now s

end ModerationGateway.Gateway
