import ModerationGateway.Breaker.Machine

/-!
# Circuit breakers

A breaker is its machine and a supply of permits. A call that the machine lets in takes a permit
for as long as its work runs; without a permit it fails at once. Work that takes too long is
stopped and has failed.

* `CallError`: why a call has no result;
* `CircuitBreaker`, `Snapshot`: the breaker, and what is told of it;
* `start`, `settle`, `cancel`: a call starts its work, the work is over, or it is given up;
* `waitOf`: how long a wait is;
* `Work`, `Work.deadline`: work of a known length, and how it ends under a time limit;
* `call`: a call that is alone, from start to end.
-/

namespace ModerationGateway.Breaker

/-- Why a call has no result. -/
inductive CallError (ε : Type) where
  /-- The breaker is open. -/
  | circuitOpen
  /-- Too many calls are running. -/
  | rejected
  /-- The work took too long. -/
  | timedOut (ms : Nat)
  /-- The work failed. -/
  | inner (error : ε)
  deriving DecidableEq, Repr

namespace CallError

variable {ε : Type}

/-- The machine-readable name of the cause. -/
def code : CallError ε → String
  | circuitOpen => "circuit_open"
  | rejected => "rejected"
  | timedOut _ => "timeout"
  | inner _ => "vendor_error"

/-- The wording of the cause, given that of a failure of the work. -/
def message (describe : ε → String) : CallError ε → String
  | circuitOpen => "circuit open"
  | rejected => "rejected: concurrency limit reached"
  | timedOut ms => "timed out after " ++ decimalText ms ++ " ms"
  | inner e => describe e

end CallError

/-- What is told of a breaker. -/
structure Snapshot where
  state : CircuitState
  requests : Nat
  errors : Nat
  available : Nat
  deriving DecidableEq, Repr

/-- A breaker: its settings, its machine, and the permits that are free. -/
structure CircuitBreaker where
  name : String
  settings : BreakerSettings
  machine : Machine
  available : Nat
  deriving DecidableEq, Repr

/-- What a call got when it started: permission to run its work, or an error at once. -/
inductive Start where
  | running (a : Admission)
  | refused
  | rejected
  deriving DecidableEq, Repr

namespace CircuitBreaker

/-- A closed breaker with all its permits. -/
def fresh (name : String) (settings : BreakerSettings) (now : Nat) : CircuitBreaker :=
  ⟨name, settings, .fresh now, settings.permits⟩

/-- What is told of the breaker. -/
def snapshot (b : CircuitBreaker) : Snapshot :=
  ⟨b.machine.state, b.machine.counts.requests, b.machine.counts.errors, b.available⟩

/-- Tell the machine that a call is over. -/
def record (b : CircuitBreaker) (a : Admission) (success : Bool) (now : Nat) : CircuitBreaker :=
  { b with machine := b.machine.record b.settings a success now }

/-- A call starts. Lacking a permit counts as a failure. -/
def start (b : CircuitBreaker) (now : Nat) : CircuitBreaker × Start :=
  match b.machine.enter b.settings now with
  | none => (b, .refused)
  | some (m, a) =>
    let b := { b with machine := m }
    if b.available = 0 then (b.record a false now, .rejected)
    else ({ b with available := b.available - 1 }, .running a)

/-- The work of a call is over; its permit is free again. -/
def settle (b : CircuitBreaker) (a : Admission) (success : Bool) (now : Nat) : CircuitBreaker :=
  let b := b.record a success now
  { b with available := b.available + 1 }

/-- The work of a call is given up; its permit is free again. -/
def cancel (b : CircuitBreaker) (a : Admission) : CircuitBreaker :=
  { b with machine := b.machine.abandon a, available := b.available + 1 }

@[simp] theorem settings_record (b : CircuitBreaker) (a : Admission) (success : Bool) (now : Nat) :
    (b.record a success now).settings = b.settings := rfl

@[simp] theorem available_record (b : CircuitBreaker) (a : Admission) (success : Bool)
    (now : Nat) : (b.record a success now).available = b.available := rfl

@[simp] theorem available_settle (b : CircuitBreaker) (a : Admission) (success : Bool)
    (now : Nat) : (b.settle a success now).available = b.available + 1 := rfl

@[simp] theorem available_cancel (b : CircuitBreaker) (a : Admission) :
    (b.cancel a).available = b.available + 1 := rfl

@[simp] theorem settings_start (b : CircuitBreaker) (now : Nat) :
    (b.start now).1.settings = b.settings := by
  unfold start
  split
  · rfl
  · dsimp only
    split <;> rfl

theorem start_refused {b : CircuitBreaker} {now : Nat}
    (h : b.machine.enter b.settings now = none) : b.start now = (b, .refused) := by
  simp [start, h]

end CircuitBreaker

/-- The longest time anything waits for: thirty years of 365 days, in milliseconds. -/
def longestWait : Nat := 946080000000

/-- How long a wait for so many milliseconds is. -/
def waitOf (ms : Nat) : Nat := min ms longestWait

/-- Work of a known length: how long it takes, if it ends at all, and its outcome. -/
structure Work (ε α : Type) where
  lasts : Option Nat
  outcome : Except ε α

namespace Work

variable {ε α : Type}

/-- Work that is over at once. -/
def atOnce (outcome : Except ε α) : Work ε α := ⟨some 0, outcome⟩

/-- How long the work runs under a time limit, and what comes of it. Work that ends exactly at the
limit has ended in time. -/
def deadline (w : Work ε α) (limit : Nat) : Nat × Except (CallError ε) α :=
  match w.lasts with
  | some ms =>
    if waitOf ms ≤ waitOf limit then (waitOf ms, w.outcome.mapError .inner)
    else (waitOf limit, .error (.timedOut limit))
  | none => (waitOf limit, .error (.timedOut limit))

end Work

/-- What came of a call that is alone: the breaker after it, the time after it, its result, and
whether its work was started. -/
structure Called (ε α : Type) where
  breaker : CircuitBreaker
  now : Nat
  result : Except (CallError ε) α
  started : Bool

variable {ε α : Type}

/-- A call that is alone. -/
def CircuitBreaker.call (b : CircuitBreaker) (now : Nat) (w : Work ε α) : Called ε α :=
  match b.start now with
  | (b, .refused) => ⟨b, now, .error .circuitOpen, false⟩
  | (b, .rejected) => ⟨b, now, .error .rejected, false⟩
  | (b, .running a) =>
    let (ms, result) := w.deadline b.settings.timeoutMs.toNat
    ⟨b.settle a result.isOk (now + ms), now + ms, result, true⟩

end ModerationGateway.Breaker
