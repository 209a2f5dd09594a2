import ModerationGateway.Chat.Prompt
import ModerationGateway.Config.Rule
import ModerationGateway.Moderation.Consult
import ModerationGateway.Moderation.Envelope
import ModerationGateway.Text.Blank
import ModerationGateway.Words.Cache

/-!
# Screening requests

A request is screened before it is forwarded: by the rule's word list, and if that finds nothing by
the rule's checker. A request that asks nothing is let through, and a word list that cannot be
loaded is left out.

* `Screened`: the outcome;
* `screenWords`: the hits of the word list;
* `resolvePrompt`: what a verdict on the prompt means;
* `screen`: the whole.
-/

namespace ModerationGateway.Moderation

open ModerationGateway.Words

/-- A request goes on, or is answered at once. -/
inductive Screened where
  | allowed
  | rejected (status : Nat) (envelope : Envelope)
  deriving DecidableEq, Repr

/-- The hits of a rule's word list in a prompt; none if there is no list to be had. -/
def screenWords (words : Option SensitiveWords) (prompt : String) (cache : MatcherCache)
    (source : WordSource) : MatcherCache × List String :=
  match words with
  | none => (cache, [])
  | some s =>
    match cache.get ⟨s.source, s.version, s.matchMode⟩ source with
    | (cache, .ok found) => (cache, found.matcher.search prompt)
    | (cache, .error _) => (cache, [])

/-- What a verdict on the prompt means. -/
def resolvePrompt (policy : FailurePolicy) : Verdict → Screened
  | .pass => .allowed
  | .block reason _ => .rejected 400 (.promptViolation reason)
  | .error _ code =>
    match policy with
    | .failOpen => .allowed
    | .failClosed => .rejected 503 (.unavailable code)

/-- Put the prompt to the checker, if the rule has one. -/
def screenPrompt (settings : Option ContentSecurity) (prompt : String) : Consult Screened :=
  match settings with
  | none => .done .allowed
  | some c => .ask ⟨.prompt, prompt⟩ fun v => .done (resolvePrompt c.failurePolicy v)

/-- Screen the body of a request under a rule. The checker is asked only where there are settings
for it. -/
def screen (words : Option SensitiveWords) (settings : Option ContentSecurity) (body : Bytes)
    (cache : MatcherCache) (source : WordSource) : MatcherCache × Consult Screened :=
  let prompt := Chat.prompt body
  if Text.isBlankText prompt.toList then (cache, .done .allowed)
  else
    match screenWords words prompt cache source with
    | (cache, []) => (cache, screenPrompt settings prompt)
    | (cache, hits) => (cache, .done (.rejected 400 (.sensitiveWords hits)))

end ModerationGateway.Moderation
