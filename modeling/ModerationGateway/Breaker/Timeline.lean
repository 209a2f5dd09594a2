import ModerationGateway.Breaker.Basic

/-!
# Concurrent calls over time

Calls on one breaker overlap. Time stands still while anything can happen and then moves to the
next moment at which some work is over.

* `Running`, `Finished`: a call whose work runs, and one that is over;
* `Timeline`: the breaker, the time and the running calls;
* `launch`: a call starts;
* `advance`: time moves on and the work that is over by then is settled, the earliest first;
* `sleep`: a while passes;
* `cancel`: a running call is given up.
-/

namespace ModerationGateway.Breaker

variable {ε α : Type}

/-- A call whose work runs: when it is over, and with what result. -/
structure Running (ε α : Type) where
  id : String
  admission : Admission
  endsAt : Nat
  result : Except (CallError ε) α

/-- A call that is over: when, with what result, and whether its work was started. -/
structure Finished (ε α : Type) where
  id : String
  endedAt : Nat
  result : Except (CallError ε) α
  started : Bool

/-- A breaker and the calls that run on it, in the order of their start. -/
structure Timeline (ε α : Type) where
  now : Nat
  breaker : CircuitBreaker
  running : List (Running ε α)

namespace Timeline

/-- A fresh breaker at the start of time. -/
def ofBreaker (b : CircuitBreaker) : Timeline ε α := ⟨0, b, []⟩

/-- The first of the calls that are over earliest. -/
def earliest? : List (Running ε α) → Option (Running ε α)
  | [] => none
  | r :: rs =>
    match earliest? rs with
    | none => some r
    | some other => if r.endsAt ≤ other.endsAt then some r else some other

/-- Settle a running call at the moment its work is over. -/
def settle (t : Timeline ε α) (r : Running ε α) : Timeline ε α × Finished ε α :=
  ({ now := max t.now r.endsAt
     breaker := t.breaker.settle r.admission r.result.isOk (max t.now r.endsAt)
     running := t.running.eraseP fun other => other.id == r.id && other.endsAt == r.endsAt },
    ⟨r.id, r.endsAt, r.result, true⟩)

/-- Settle the calls that are over by a given time, at most so many. -/
def settleUntil (time : Nat) : Nat → Timeline ε α → Timeline ε α × List (Finished ε α)
  | 0, t => (t, [])
  | fuel + 1, t =>
    match earliest? t.running with
    | none => (t, [])
    | some r =>
      if r.endsAt ≤ time then
        let (t, first) := t.settle r
        let (t, rest) := settleUntil time fuel t
        (t, first :: rest)
      else (t, [])

/-- Let time move on. Each running call is settled at most once, so their number bounds the
steps. -/
def advance (t : Timeline ε α) (time : Nat) : Timeline ε α × List (Finished ε α) :=
  let (t, done) := settleUntil time t.running.length t
  ({ t with now := max t.now time }, done)

/-- Let so many milliseconds pass. -/
def sleep (t : Timeline ε α) (ms : Nat) : Timeline ε α × List (Finished ε α) :=
  t.advance (t.now + waitOf ms)

/-- A call starts. It is over at once if it gets no work started. -/
def launch (t : Timeline ε α) (id : String) (w : Work ε α) :
    Timeline ε α × Option (Finished ε α) :=
  match t.breaker.start t.now with
  | (b, .refused) => ({ t with breaker := b }, some ⟨id, t.now, .error .circuitOpen, false⟩)
  | (b, .rejected) => ({ t with breaker := b }, some ⟨id, t.now, .error .rejected, false⟩)
  | (b, .running a) =>
    let (ms, result) := w.deadline b.settings.timeoutMs.toNat
    ({ t with breaker := b, running := t.running ++ [⟨id, a, t.now + ms, result⟩] }, none)

/-- A running call is given up. A call that does not run is not affected. -/
def cancel (t : Timeline ε α) (id : String) : Timeline ε α :=
  match t.running.find? fun r => r.id == id with
  | none => t
  | some r =>
    { t with
      breaker := t.breaker.cancel r.admission
      running := t.running.eraseP fun other => other.id == id }

/-- A call starts and is waited for. -/
def call (t : Timeline ε α) (id : String) (w : Work ε α) :
    Timeline ε α × List (Finished ε α) :=
  match t.launch id w with
  | (t, some finished) => (t, [finished])
  | (t, none) =>
    match t.running.find? fun r => r.id == id with
    | none => (t, [])
    | some r => t.advance r.endsAt

end Timeline

end ModerationGateway.Breaker
