import ModerationGateway.Breaker.Settings

/-!
# The states of a circuit breaker

A closed breaker counts the outcomes of its calls over a rolling window and opens when too many of
them fail. An open one refuses calls until its sleep window is over; then it is half open and lets
one trial call through, which closes it again or restarts the sleep window.

* `CircuitState`, `Counts`, `Machine`: the state, and what is remembered with it;
* `Admission`: how a call was let in;
* `Machine.enter`, `Machine.record`, `Machine.abandon`: a call comes, is over, or is given up.

Times are milliseconds since some start.
-/

namespace ModerationGateway.Breaker

/-- The three states. -/
inductive CircuitState where
  | closed
  | opened
  | halfOpen
  deriving DecidableEq, Repr

/-- The name of a state. -/
def CircuitState.name : CircuitState → String
  | .closed => "closed"
  | .opened => "open"
  | .halfOpen => "half_open"

/-- The outcomes counted in the current window. -/
structure Counts where
  requests : Nat
  errors : Nat
  since : Nat
  deriving DecidableEq, Repr

/-- No outcomes, counted from now on. -/
def Counts.fresh (now : Nat) : Counts := ⟨0, 0, now⟩

/-- How a call was let in: as one of many, or as the one trial of a half-open breaker. -/
inductive Admission where
  | normal
  | trial
  deriving DecidableEq, Repr

/-- The state of a breaker. -/
structure Machine where
  state : CircuitState
  counts : Counts
  /-- When the breaker opened last, if it has not closed since. -/
  openedAt : Option Nat
  /-- A trial call has been let in and is not over. -/
  trialInFlight : Bool
  deriving DecidableEq, Repr

namespace Machine

/-- A closed breaker that has counted nothing. -/
def fresh (now : Nat) : Machine := ⟨.closed, .fresh now, none, false⟩

/-- Start a new window if the current one is over. -/
def roll (m : Machine) (s : BreakerSettings) (now : Nat) : Machine :=
  if s.rollingWindowMs.toNat ≤ now - m.counts.since then { m with counts := .fresh now } else m

/-- Open the breaker. -/
def trip (m : Machine) (now : Nat) : Machine :=
  { m with state := .opened, openedAt := some now, trialInFlight := false }

/-- The sleep window is over. -/
def hasSlept (m : Machine) (s : BreakerSettings) (now : Nat) : Bool :=
  match m.openedAt with
  | none => true
  | some t => s.sleepWindowMs.toNat ≤ now - t

/-- A call comes. It is let in, or refused and nothing changes. -/
def enter (m : Machine) (s : BreakerSettings) (now : Nat) : Option (Machine × Admission) :=
  match m.state with
  | .closed => some (m.roll s now, .normal)
  | .opened =>
    if m.hasSlept s now then some ({ m with state := .halfOpen, trialInFlight := true }, .trial)
    else none
  | .halfOpen =>
    if m.trialInFlight then none else some ({ m with trialInFlight := true }, .trial)

/-- The counted outcomes are enough to open the breaker. -/
def shouldTrip (s : BreakerSettings) (c : Counts) : Bool :=
  0 < c.requests && s.requestVolumeThreshold.toNat ≤ c.requests &&
    s.errorThresholdPercentage.toNat ≤ c.errors * 100 / c.requests

/-- The counts with one outcome more. -/
def Counts.add (c : Counts) (success : Bool) : Counts :=
  { c with requests := c.requests + 1, errors := if success then c.errors else c.errors + 1 }

/-- A call is over. A trial decides the state; any other call counts while the breaker is closed,
and opens it when the failures are too many. -/
def record (m : Machine) (s : BreakerSettings) (a : Admission) (success : Bool) (now : Nat) :
    Machine :=
  match a with
  | .trial => if success then fresh now else m.trip now
  | .normal =>
    if m.state = .closed then
      let rolled := m.roll s now
      let counted := { rolled with counts := Counts.add rolled.counts success }
      if s.enabled && shouldTrip s counted.counts then counted.trip now else counted
    else m

/-- A call is given up before it is over. A half-open breaker then waits for another trial. -/
def abandon (m : Machine) (a : Admission) : Machine :=
  match a with
  | .trial => { m with trialInFlight := false }
  | .normal => m

@[simp] theorem state_fresh (now : Nat) : (fresh now).state = .closed := rfl

@[simp] theorem state_roll (m : Machine) (s : BreakerSettings) (now : Nat) :
    (m.roll s now).state = m.state := by
  unfold roll; split <;> rfl

@[simp] theorem openedAt_roll (m : Machine) (s : BreakerSettings) (now : Nat) :
    (m.roll s now).openedAt = m.openedAt := by
  unfold roll; split <;> rfl

@[simp] theorem state_trip (m : Machine) (now : Nat) : (m.trip now).state = .opened := rfl

@[simp] theorem abandon_normal (m : Machine) : m.abandon .normal = m := rfl

/-- The outcome of a call that was let in while the breaker was closed does not count unless it is
closed when the call is over. -/
theorem record_normal_of_ne_closed {m : Machine} (h : m.state ≠ .closed) (s : BreakerSettings)
    (success : Bool) (now : Nat) : m.record s .normal success now = m := by
  simp [record, h]

end Machine

end ModerationGateway.Breaker
