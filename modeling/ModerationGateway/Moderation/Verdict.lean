import ModerationGateway.Json.Value

/-!
# Verdicts

* `Phase`: which side of the conversation a text is from;
* `Question`: a text put to a checker;
* `Verdict`: what a checker answers, with its JSON form.
-/

namespace ModerationGateway.Moderation

/-- The side of the conversation: what the user asks, or what the model answers. -/
inductive Phase where
  | prompt
  | content
  deriving DecidableEq, Repr

/-- The name of a phase. -/
def Phase.name : Phase → String
  | .prompt => "prompt"
  | .content => "content"

/-- A text put to a checker. -/
structure Question where
  phase : Phase
  text : String
  deriving DecidableEq, Repr

/-- The answer of a checker: nothing found, something found, or no answer to be had. -/
inductive Verdict where
  | pass
  | block (reason vendor : String)
  | error (message code : String)
  deriving DecidableEq, Repr

namespace Verdict

/-- Nothing was found. -/
def isPass : Verdict → Bool
  | pass => true
  | _ => false

/-- The JSON form, the kind of verdict first. -/
def toJson : Verdict → Json
  | pass => .object [("verdict", .string "pass")]
  | block reason vendor =>
    .object [("verdict", .string "block"), ("reason", .string reason), ("vendor", .string vendor)]
  | error message code =>
    .object [("verdict", .string "error"), ("message", .string message), ("code", .string code)]

end Verdict

end ModerationGateway.Moderation
