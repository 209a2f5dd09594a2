import ModerationGateway.Breaker.Registry
import ModerationGateway.Moderation.Checker
import ModerationGateway.Moderation.Consult

/-!
# Gates

The gate of a rule puts questions to the rule's checker through a circuit breaker of its own. It
always has a verdict: what the breaker or the checker cannot answer becomes an error verdict.

* `World`: the time, the breakers and the world of the checkers;
* `Gate`, `Gate.ofRule`: the gate of a rule, its breaker named after vendor and rule;
* `Gate.judge`, `Gate.judgeOf`: the gate as one who answers consultations.
-/

namespace ModerationGateway.Moderation

open ModerationGateway.Breaker

variable {σ α : Type}

/-- The time in milliseconds, the breakers, and the world of the checkers. -/
structure World (σ : Type) where
  now : Nat
  breakers : Breaker.Registry
  peers : σ

/-- A checker behind its breaker, with the settings of the rule. -/
structure Gate (σ : Type) where
  settings : ContentSecurity
  checker : Checker σ
  breakerName : String
  breaker : BreakerId

namespace Gate

/-- The key of the breaker of a checker under a rule. -/
def breakerKey (vendor ruleId : String) : String := vendor ++ ":" ++ ruleId

/-- The gate of a rule, if the rule has content security. -/
def ofRule (rule : Rule) (checkers : CheckerRegistry σ) (w : World σ) :
    Except Fault (Option (Gate σ) × World σ) :=
  match rule.contentSecurity with
  | none => .ok (none, w)
  | some settings =>
    match checkers.get settings.vendor with
    | .error fault => .error fault
    | .ok checker =>
      let key := breakerKey checker.vendor rule.id
      let (breakers, id) := w.breakers.getOrCreate key settings.breaker w.now
      .ok (some ⟨settings, checker, key, id⟩, { w with breakers })

/-- The verdict of a call. -/
def verdictOf : Except (CallError Fault) Verdict → Verdict
  | .ok v => v
  | .error e => .error (e.message Fault.message) e.code

/-- Put a question through a breaker. The world of the checkers changes only if the breaker lets
the question through. -/
def putThrough (g : Gate σ) (b : CircuitBreaker) (w : World σ) (q : Question) :
    Verdict × World σ :=
  let (work, peers) := g.checker.check g.settings q w.peers
  let called := b.call w.now work
  (verdictOf called.result,
    { now := called.now
      breakers := w.breakers.update g.breaker called.breaker
      peers := if called.started then peers else w.peers })

/-- The gate answers a question. -/
def judge (g : Gate σ) : Consult.Judge (World σ) := fun w q =>
  match w.breakers.breaker? g.breaker with
  | none => (.error "" "", w)
  | some b => g.putThrough b w q

/-- Who answers for a gate. Without a gate there is no question, and no objection to any. -/
def judgeOf (gate : Option (Gate σ)) : Consult.Judge (World σ) :=
  match gate with
  | some g => g.judge
  | none => fun w _ => (.pass, w)

/-- The policy as it is shown to an operator. -/
def policyName : FailurePolicy → String
  | .failOpen => "FailOpen"
  | .failClosed => "FailClosed"

/-- The gate as it is shown to an operator. -/
def describe (g : Gate σ) : String :=
  "ModerationGate \x7b vendor: " ++ Text.shown g.checker.vendor ++ ", breaker: " ++
    Text.shown g.breakerName ++ ", failure_policy: " ++ policyName g.settings.failurePolicy ++
    " \x7d"

end Gate

end ModerationGateway.Moderation
