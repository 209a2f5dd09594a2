import ModerationGateway.Config.Rule
import ModerationGateway.Moderation.Consult
import ModerationGateway.Moderation.Envelope
import ModerationGateway.Stream.Batch
import ModerationGateway.Stream.InFlight

/-!
# Which bytes of an answer are released

Each batch of frames is either released as it came or, from the first refused check on, replaced
by one envelope.

* `resolve`: what a verdict does to a request and to the batch that waits for it;
* `check`: a check of the window;
* `submit`: a full batch comes;
* `close`: the answer ends, perhaps with a last batch.
-/

namespace ModerationGateway.Moderation

open ModerationGateway.Stream

/-- Refuse the rest of the answer: the payload is all that is released. -/
def refuse (q : Request) (envelope : Envelope) : Request × List Bytes :=
  (q.block envelope.bytes, [envelope.bytes])

/-- Let a checked batch go. -/
def letGo (q : Request) (batch : Batch) : Request × List Bytes :=
  ({ q with window := q.window.completeFirstCheck }, batch.raws)

/-- What a verdict does. A checker that could not answer is resolved by the policy. -/
def resolve (policy : FailurePolicy) (q : Request) (batch : Batch) (v : Verdict) :
    Request × List Bytes :=
  let q := { q with window := q.window.markChecked }
  match v with
  | .pass => letGo q batch
  | .block reason _ => refuse q (.responseViolation reason)
  | .error _ code =>
    match policy with
    | .failOpen => letGo q batch
    | .failClosed => refuse q (.unavailable code)

/-- Check the window while a batch waits. -/
def check (c : ContentSecurity) (q : Request) (batch : Batch) : Consult (Request × List Bytes) :=
  let q := { q with checks := q.checks + 1 }
  .ask ⟨.content, String.ofList q.window.text⟩ fun v => .done (resolve c.failurePolicy q batch v)

/-- Take the text of a batch into the window. The flag says whether a check is due. -/
def takeIn (q : Request) (batch : Batch) : Request × Bool :=
  let (window, due) := q.window.add batch.delta.toList
  ({ q with window, batches := q.batches + 1 }, due)

/-- A full batch comes. -/
def submit (c : ContentSecurity) (q : Request) (batch : Batch) : Consult (Request × List Bytes) :=
  match q.payload with
  | some payload => .done ({ q with batches := q.batches + 1 }, [payload])
  | none =>
    match takeIn q batch with
    | (q, true) => check c q batch
    | (q, false) => .done (q, batch.raws)

/-- Check what no check has seen yet, if the rule asks for it. -/
def checkTail (c : ContentSecurity) (q : Request) (batch : Batch) :
    Consult (Request × List Bytes) :=
  if c.tailCheck && q.window.hasUnchecked then check c q batch else .done (q, batch.raws)

/-- The answer ends. -/
def close (c : ContentSecurity) (q : Request) (last : Option Batch) :
    Consult (Request × List Bytes) :=
  match q.payload with
  | some payload => .done (q, if last.isSome then [payload] else [])
  | none =>
    match last with
    | none => checkTail c q []
    | some batch =>
      match takeIn q batch with
      | (q, true) => check c q batch
      | (q, false) => checkTail c q batch

theorem submit_of_isBlocked {c : ContentSecurity} {q : Request} {payload : Bytes}
    (h : q.payload = some payload) (batch : Batch) :
    submit c q batch = .done ({ q with batches := q.batches + 1 }, [payload]) := by
  simp [submit, h]

theorem close_of_isBlocked {c : ContentSecurity} {q : Request} {payload : Bytes}
    (h : q.payload = some payload) (last : Option Batch) :
    close c q last = .done (q, if last.isSome then [payload] else []) := by
  simp [close, h]

end ModerationGateway.Moderation
