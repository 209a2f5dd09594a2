import ModerationGateway.Gateway.Rules
import ModerationGateway.Gateway.Stats
import ModerationGateway.Http.Client
import ModerationGateway.Json.Writer
import ModerationGateway.Moderation.Gate
import ModerationGateway.Stream.InFlight
import ModerationGateway.Words.Cache

/-!
# The gateway's parts

* `Setup`: what a gateway is made of: its configuration, its rules and the ways to the outside;
* `State`: what changes from one request to the next;
* `count`, `answered`: what is recorded of a request;
* `snapshotJson`, `summaryJson`, `describe`: what is told of both.
-/

namespace ModerationGateway.Gateway

open ModerationGateway.Breaker ModerationGateway.Moderation ModerationGateway.Stream
open ModerationGateway.Words

variable {σ : Type}

/-- What a gateway is made of. -/
structure Setup (σ : Type) where
  config : Config
  rules : RuleCache
  words : WordSource
  checkers : CheckerRegistry σ
  exchange : Http.Exchange σ

/-- The gateway of a configuration. -/
def Setup.ofConfig (config : Config) (words : WordSource) (checkers : CheckerRegistry σ)
    (exchange : Http.Exchange σ) : Setup σ :=
  ⟨config, .ofConfig config, words, checkers, exchange⟩

/-- The gateway as it is shown to an operator. -/
def Setup.describe (setup : Setup σ) : String :=
  "GatewayState \x7b upstream: " ++ Text.shown setup.config.proxy.backend ++ ", rules: " ++
    decimalText setup.rules.size ++ ", checkers: " ++ setup.checkers.describe ++ ", .. \x7d"

/-- What changes from one request to the next. -/
structure State (σ : Type) where
  world : World σ
  matchers : MatcherCache
  active : InFlight
  stats : Stats
  /-- Since when requests are counted, in milliseconds. -/
  since : Nat

namespace State

/-- A gateway that has just started in a world. -/
def start (world : World σ) : State σ := ⟨world, .empty, .empty, .zero, world.now⟩

/-- Count an event. -/
def count (s : State σ) (event : Stats → Stats) : State σ := { s with stats := event s.stats }

/-- A request that came at some time is answered now. -/
def answered (s : State σ) (came : Nat) : State σ :=
  s.count fun stats => stats.recordRequest ((s.world.now - came) * 1000000)

/-- Count from nothing again. -/
def resetStats (s : State σ) : State σ := { s with stats := s.stats.reset, since := s.world.now }

@[simp] theorem stats_count (s : State σ) (event : Stats → Stats) :
    (s.count event).stats = event s.stats := rfl

@[simp] theorem requests_answered (s : State σ) (came : Nat) :
    (s.answered came).stats.requests = s.stats.requests + 1 := rfl

@[simp] theorem blocked_answered (s : State σ) (came : Nat) :
    (s.answered came).stats.blocked = s.stats.blocked := rfl

end State

/-- What is told of a breaker. -/
def snapshotJson (s : Snapshot) : Json :=
  .object [("available_permits", .ofNat s.available), ("errors", .ofNat s.errors),
    ("requests", .ofNat s.requests), ("state", .string s.state.name)]

/-- What is told of the requests in flight. -/
def inFlightJson (r : InFlight) : Json :=
  .object [("blocked", .ofNat r.blocked), ("finished", .ofNat r.finished),
    ("in_flight", .ofNat r.size)]

/-- A percentile of the latencies in milliseconds. -/
def latencyJson (s : Stats) (percent : Nat) : Json :=
  .ofOption ((s.percentile percent).map fun nanos => .number (.double (Stats.milliseconds nanos)))

/-- What is told of the counts. -/
def statsJson (s : Stats) (uptimeSecs : Nat) : Json :=
  .object [("blocked_requests", .ofNat s.blocked), ("bypassed_requests", .ofNat s.bypassed),
    ("p50_latency_ms", latencyJson s 50), ("p95_latency_ms", latencyJson s 95),
    ("p99_latency_ms", latencyJson s 99), ("streaming_requests", .ofNat s.streaming),
    ("total_errors", .ofNat s.errors), ("total_requests", .ofNat s.requests),
    ("uptime_secs", .ofNat uptimeSecs)]

/-- What is told of a gateway. -/
def State.summaryJson (s : State σ) : Json :=
  .object [
    ("breakers", .object (s.world.breakers.snapshots.map fun (key, b) => (key, snapshotJson b))),
    ("requests", statsJson s.stats ((s.world.now - s.since) / 1000)),
    ("streams", inFlightJson s.active)]

end ModerationGateway.Gateway
