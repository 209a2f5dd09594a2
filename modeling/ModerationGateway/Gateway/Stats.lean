import ModerationGateway.Json.Value
import ModerationGateway.Number.Binary64

/-!
# Counting requests

* `Stats`: what is counted, and the latest latencies in nanoseconds;
* `recordRequest` and its companions: the events;
* `percentile`: a latency that a given share of the latest requests do not exceed;
* `milliseconds`: a latency as a double, rounded at each step.
-/

namespace ModerationGateway.Gateway

/-- How many of the latest latencies are kept. -/
def sampleSize : Nat := 1000

/-- The counts, and the latencies in the order they were recorded. -/
structure Stats where
  requests : Nat
  streaming : Nat
  blocked : Nat
  bypassed : Nat
  errors : Nat
  latencies : List Nat
  deriving DecidableEq, Repr

namespace Stats

/-- Nothing counted. -/
def zero : Stats := ⟨0, 0, 0, 0, 0, []⟩

/-- The latest of some latencies. -/
def latest (latencies : List Nat) : List Nat :=
  if sampleSize < latencies.length then latencies.tail else latencies

/-- A request was answered after so many nanoseconds. -/
def recordRequest (s : Stats) (latency : Nat) : Stats :=
  { s with requests := s.requests + 1, latencies := latest (s.latencies ++ [latency]) }

/-- An answer is a stream. -/
def recordStreaming (s : Stats) : Stats := { s with streaming := s.streaming + 1 }

/-- Something was refused. -/
def recordBlocked (s : Stats) : Stats := { s with blocked := s.blocked + 1 }

/-- A request had no rule. -/
def recordBypassed (s : Stats) : Stats := { s with bypassed := s.bypassed + 1 }

/-- Something failed. -/
def recordError (s : Stats) : Stats := { s with errors := s.errors + 1 }

/-- Start again. -/
def reset (_ : Stats) : Stats := zero

/-- The position of a percentile in a sorted sample. -/
def rank (count percent : Nat) : Nat := min (count * percent / 100) (count - 1)

/-- A percentile of the kept latencies, if there are any. -/
def percentile (s : Stats) (percent : Nat) : Option Nat :=
  (s.latencies.mergeSort)[rank s.latencies.length percent]?

/-- Nanoseconds as milliseconds: whole seconds and the rest are rounded apart, then added. -/
def milliseconds? (nanos : Nat) : Option Binary64 := do
  let seconds ← Binary64.ofNat? (nanos / 1000000000)
  let rest ← (← Binary64.ofNat? (nanos % 1000000000)).div? (← Binary64.ofNat? (1000000000))
  (← seconds.add? rest).mul? (← Binary64.ofNat? 1000)

/-- Nanoseconds as milliseconds. Durations are far below the largest double. -/
def milliseconds (nanos : Nat) : Binary64 := (milliseconds? nanos).getD .zero

theorem rank_lt {count : Nat} (h : 0 < count) (percent : Nat) : rank count percent < count := by
  unfold rank
  omega

end Stats

end ModerationGateway.Gateway
