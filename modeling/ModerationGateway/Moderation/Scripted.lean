import ModerationGateway.Moderation.Checker
import ModerationGateway.Text.Occurs

/-!
# Checkers that follow a script

A rehearsal runs the gateway without a vendor. The checker's answers follow rules on the phase, the
text and the number of the call; the first rule that applies decides, and without one the text
passes.

* `Cue`, `Cue.applies`: when a rule applies;
* `Effect`, `ScriptRule`: what it answers, and after what time;
* `Rehearsal`: how many calls were made, and the questions seen;
* `scripted`: the checker.
-/

namespace ModerationGateway.Moderation

open ModerationGateway.Breaker

/-- Conditions on a call, all of which must hold. -/
structure Cue where
  contains : Option String
  phase : Option Phase
  first : Option Nat
  last : Option Nat
  deriving DecidableEq, Repr

/-- An optional condition holds. -/
def holds {α : Type} (condition : Option α) (p : α → Bool) : Bool :=
  match condition with
  | none => true
  | some a => p a

/-- The cue applies to a question put as the `n`-th call. -/
def Cue.applies (c : Cue) (n : Nat) (q : Question) : Bool :=
  holds c.contains (Text.contains q.text ·) && holds c.phase (· == q.phase) &&
    holds c.first (· ≤ n) && holds c.last (n < ·)

/-- What a rule answers. -/
inductive Effect where
  | pass
  | block (reason : String)
  | verdictError (code : String)
  | fail (fault : Fault)
  deriving DecidableEq, Repr

/-- A rule of a script. -/
structure ScriptRule where
  cue : Cue
  delayMs : Nat
  effect : Effect
  deriving DecidableEq, Repr

/-- How a rehearsal stands: the number of calls, and the questions in the order seen. -/
structure Rehearsal where
  calls : Nat
  seen : List Question
  deriving DecidableEq, Repr

/-- A rehearsal before its first call. -/
def Rehearsal.start : Rehearsal := ⟨0, []⟩

/-- The outcome of an effect. -/
def Effect.outcome (vendor : String) : Effect → Except Fault Verdict
  | .pass => .ok .pass
  | .block reason => .ok (.block reason vendor)
  | .verdictError code => .ok (.error "scripted" code)
  | .fail fault => .error fault

/-- The work of answering a question. -/
def scriptedWork (vendor : String) (rules : List ScriptRule) (n : Nat) (q : Question) :
    Work Fault Verdict :=
  match rules.find? fun r => r.cue.applies n q with
  | none => .atOnce (.ok .pass)
  | some r => ⟨some r.delayMs, r.effect.outcome vendor⟩

/-- The checker of a script. -/
def scripted (vendor : String) (rules : List ScriptRule) : Checker Rehearsal where
  vendor := vendor
  check _ q r := (scriptedWork vendor rules r.calls q, ⟨r.calls + 1, r.seen ++ [q]⟩)

end ModerationGateway.Moderation
