import ModerationGateway.Fault
import ModerationGateway.Json.Record

/-!
# Circuit breaker settings

* `BreakerSettings`, `BreakerSettings.standard`: the settings and their defaults;
* `BreakerSettings.check`: the settings that a breaker can work with;
* `BreakerSettings.toJson`, `BreakerSettings.ofJson?`: their written form.
-/

namespace ModerationGateway

/-- When a breaker opens, how long it stays open, and how much it lets through. -/
structure BreakerSettings where
  /-- A breaker that is not enabled never opens. -/
  enabled : Bool
  /-- The least number of counted calls on which it may open. -/
  requestVolumeThreshold : UInt64
  /-- The percentage of failures at which it opens. -/
  errorThresholdPercentage : UInt64
  /-- How long it stays open before a trial, in milliseconds. -/
  sleepWindowMs : UInt64
  /-- How long calls are counted, in milliseconds. -/
  rollingWindowMs : UInt64
  /-- How long a call may take, in milliseconds. -/
  timeoutMs : UInt64
  /-- How many calls may run at once. -/
  maxConcurrent : UInt64
  deriving DecidableEq, Repr

namespace BreakerSettings

/-- The defaults. -/
def standard : BreakerSettings := ⟨true, 30, 70, 15000, 10000, 1800, 200⟩

/-- The most permits that can be given out. -/
def maxPermits : Nat := 0x1FFFFFFFFFFFFFFF

/-- How many calls may run at once. -/
def permits (s : BreakerSettings) : Nat := min s.maxConcurrent.toNat maxPermits

/-- The settings can be worked with. -/
def check (s : BreakerSettings) : Except Fault Unit :=
  if 100 < s.errorThresholdPercentage.toNat then
    .error (.config ("breaker.error_threshold_percentage must be 0-100, got " ++
      decimalText s.errorThresholdPercentage.toNat))
  else if s.maxConcurrent.toNat = 0 ∨ maxPermits < s.maxConcurrent.toNat then
    .error (.config ("breaker.max_concurrent must be 1-" ++ decimalText maxPermits ++ ", got " ++
      decimalText s.maxConcurrent.toNat))
  else if s.timeoutMs.toNat = 0 ∨ s.rollingWindowMs.toNat = 0 then
    .error (.config "breaker.timeout_ms and breaker.rolling_window_ms must be positive")
  else .ok ()

/-- The written form. -/
def toJson (s : BreakerSettings) : Json :=
  .object [("enabled", .bool s.enabled),
    ("request_volume_threshold", .ofNat s.requestVolumeThreshold.toNat),
    ("error_threshold_percentage", .ofNat s.errorThresholdPercentage.toNat),
    ("sleep_window_ms", .ofNat s.sleepWindowMs.toNat),
    ("rolling_window_ms", .ofNat s.rollingWindowMs.toNat),
    ("timeout_ms", .ofNat s.timeoutMs.toNat),
    ("max_concurrent", .ofNat s.maxConcurrent.toNat)]

/-- The names of the fields, in order. -/
def fieldNames : List String :=
  ["enabled", "request_volume_threshold", "error_threshold_percentage", "sleep_window_ms",
    "rolling_window_ms", "timeout_ms", "max_concurrent"]

/-- The settings of a document. -/
def ofJson? (dialect : Dialect) (j : Json) : Option BreakerSettings := do
  let r ← j.record? dialect fieldNames
  some {
    enabled := ← r.default? "enabled" Json.flag? standard.enabled
    requestVolumeThreshold :=
      ← r.default? "request_volume_threshold" Json.natural64? standard.requestVolumeThreshold
    errorThresholdPercentage :=
      ← r.default? "error_threshold_percentage" Json.natural64? standard.errorThresholdPercentage
    sleepWindowMs := ← r.default? "sleep_window_ms" Json.natural64? standard.sleepWindowMs
    rollingWindowMs := ← r.default? "rolling_window_ms" Json.natural64? standard.rollingWindowMs
    timeoutMs := ← r.default? "timeout_ms" Json.natural64? standard.timeoutMs
    maxConcurrent := ← r.default? "max_concurrent" Json.natural64? standard.maxConcurrent }

end BreakerSettings

end ModerationGateway
