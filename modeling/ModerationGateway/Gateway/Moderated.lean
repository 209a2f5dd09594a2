import ModerationGateway.Chat.Reply
import ModerationGateway.Gateway.State
import ModerationGateway.Moderation.Interceptor

/-!
# Moderated responses

A successful response to a request under a rule with a checker is moderated before the client has
it. How depends on its headers.

* `Treatment`, `treatment`: encoded bodies cannot be read, event streams are moderated piece by
  piece, JSON documents as a whole, and everything else passes;
* `passed`: a response as it comes, without the headers of one connection;
* `resolveReply`: what a verdict on a whole answer means;
* `moderate`: the response for the client.
-/

namespace ModerationGateway.Gateway

open ModerationGateway.Http ModerationGateway.Moderation ModerationGateway.Stream

variable {σ : Type}

/-- Headers that belong to one connection. -/
def connectionHeaders : List String :=
  ["host", "connection", "content-length", "transfer-encoding", "upgrade", "te"]

/-- The headers that are passed on. -/
def forwardable (h : Headers) : Headers := h.without connectionHeaders

/-- A response as it comes. -/
def passed (r : Response) : Response := { r with headers := forwardable r.headers }

/-- A response with an envelope. -/
def enveloped (status : Nat) (e : Envelope) : Response := .ofJsonBytes status e.bytes

/-- A response that tells of a fault of the gateway. -/
def proxyError (status : Nat) (message : String) : Response :=
  .json status (.object [("error",
    .object [("message", .string message), ("type", .string "proxy_error")])])

/-- How a body is treated. -/
inductive Treatment where
  | encoded
  | stream
  | document
  | other
  deriving DecidableEq, Repr

/-- The encoding of a body, in lower case; none if the body is plain. An encoding that cannot be
read is some encoding. -/
def encoding? (h : Headers) : Option String :=
  (h.first? "content-encoding").bind fun value =>
    let name := Text.lowerAscii (Text.trimmed ((Headers.visible? value).getD "unknown"))
    if name.isEmpty ∨ name = "identity" then none else some name

/-- The type of a body speaks of something. The letter case counts. -/
def typeMentions (h : Headers) (word : String) : Bool :=
  ((h.first? "content-type").bind Headers.visible?).any fun t => Text.contains t word

/-- How the body of a response is treated. -/
def treatment (h : Headers) : Treatment :=
  if (encoding? h).isSome then .encoded
  else if typeMentions h "event-stream" then .stream
  else if typeMentions h "json" then .document
  else .other

/-- The code of a body whose encoding is not known. -/
def unsupportedEncoding : String := "unsupported_encoding"

/-- What takes the place of a whole answer after a verdict on it, if something does. -/
def resolveReply (policy : FailurePolicy) (status : Nat) : Verdict → Option (Nat × Envelope)
  | .pass => none
  | .block reason _ => some (status, .responseViolation reason)
  | .error _ code =>
    match policy with
    | .failOpen => none
    | .failClosed => some (503, .unavailable code)

/-- An item as a piece of a body. -/
def pieceOf : Interceptor.Item → Arrival
  | .ok bytes => .chunk bytes
  | .error fault => .failed fault.message

/-- Count as often as something was reported. -/
def countReports (n : Nat) (stats : Stats) : Stats := Nat.repeat Stats.recordBlocked n stats

/-- A response whose body cannot be read. -/
def moderateEncoded (g : Gate σ) (r : Response) (came : Nat) (s : State σ) : State σ × Response :=
  match g.settings.failurePolicy with
  | .failOpen => (s.answered came, passed r)
  | .failClosed =>
    ((s.count Stats.recordBlocked).answered came, enveloped 503 (.unavailable unsupportedEncoding))

/-- An event stream. The request counts as answered when the stream starts; then the client takes
all of it. -/
def moderateStream (rule : Rule) (g : Gate σ) (r : Response) (came : Nat) (s : State σ) :
    State σ × Response :=
  let s := (s.count Stats.recordStreaming).answered came
  let (active, request) := Request.start s.active rule.id g.settings.windowSize.toNat
  let ((items, p), world) :=
    (Interceptor.drain g.settings (.ofRequest g.settings request) r.body).run g.judge s.world
  ({ s with
      world
      active := active.release p.request.guard
      stats := countReports p.reports s.stats },
    { r with
      headers := (forwardable r.headers).set "cache-control" "no-cache"
      body := items.map pieceOf })

/-- A whole answer, its bytes read. -/
def moderateBytes (g : Gate σ) (r : Response) (bytes : Bytes) (came : Nat) (s : State σ) :
    State σ × Response :=
  let content := (Chat.messageContent? bytes).getD ""
  let whole : Response := { passed r with body := [.chunk bytes] }
  if Text.isBlankText content.toList then (s.answered came, whole)
  else
    let (verdict, world) := g.judge s.world ⟨.content, content⟩
    let s := { s with world }
    match resolveReply g.settings.failurePolicy r.status verdict with
    | none => (s.answered came, whole)
    | some (status, e) => ((s.count Stats.recordBlocked).answered came, enveloped status e)

/-- A JSON document. -/
def moderateDocument (g : Gate σ) (r : Response) (came : Nat) (s : State σ) :
    State σ × Response :=
  match Arrival.collect r.body with
  | .error message =>
    ((s.count Stats.recordError).answered came,
      proxyError 502 ("Failed to read upstream response: " ++ message))
  | .ok bytes => moderateBytes g r bytes came s

/-- Moderate a successful response. -/
def moderate (rule : Rule) (g : Gate σ) (r : Response) (came : Nat) (s : State σ) :
    State σ × Response :=
  match treatment r.headers with
  | .encoded => moderateEncoded g r came s
  | .stream => moderateStream rule g r came s
  | .document => moderateDocument g r came s
  | .other => (s.answered came, passed r)

@[simp] theorem body_passed (r : Response) : (passed r).body = r.body := rfl

theorem has_forwardable (h : Headers) {name : String} (hn : name ∈ connectionHeaders) :
    (forwardable h).has name = false :=
  h.has_without hn

end ModerationGateway.Gateway
