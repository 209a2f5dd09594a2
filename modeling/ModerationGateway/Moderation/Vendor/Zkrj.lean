import ModerationGateway.Fault
import ModerationGateway.Json.Writer
import ModerationGateway.Config.Rule
import ModerationGateway.Moderation.Verdict

/-!
# The vendor `zkrj`

* `requestBody`: what the vendor is sent;
* `interpret`: what its reply means. Two categories refuse a text; any other passes it.
-/

namespace ModerationGateway.Moderation.Zkrj

/-- The vendor's name. -/
def vendor : String := "zkrj"

/-- The categories that refuse a text. -/
def blockingCategories : List String := ["违规", "疑似"]

/-- The field of a reply that is about a phase. -/
def categoryField : Phase → String
  | .prompt => "promptCategory"
  | .content => "contentCategory"

/-- What the vendor is sent: the text under the name of its phase. -/
def requestBody (c : ContentSecurity) (q : Question) : Json :=
  .object [("accessKey", .string c.accessKey), ("accessToken", .string c.accessToken),
    ("appId", .string c.appId), (q.phase.name, .string q.text)]

/-- A reply that cannot be read. -/
def malformed (message : String) : Fault := .malformedReply vendor message

/-- The reply carries a code, and it is that of success. -/
def succeeded? (code : Json) : Option Bool :=
  match code with
  | .string s => some (s == "200")
  | .number _ => some (code.natural? == some 200)
  | _ => none

/-- The string of a field, empty if there is none. -/
def textOf (j : Json) (name : String) : String := ((j.member? name).bind Json.string?).getD ""

/-- The verdict of a category. -/
def judge (category : String) : Verdict :=
  if blockingCategories.contains category then .block category vendor else .pass

/-- The meaning of a reply. -/
def interpret (body : Json) (phase : Phase) : Except Fault Verdict :=
  match body.member? "code" with
  | none => .error (malformed "missing code")
  | some code =>
    match succeeded? code with
    | none => .error (malformed "missing code")
    | some false =>
      .error (malformed ("unexpected code " ++ code.text ++ ": " ++ textOf body "msg"))
    | some true =>
      match body.member? "data" with
      | none => .error (malformed "missing data")
      | some data => .ok (judge (textOf data (categoryField phase)))

end ModerationGateway.Moderation.Zkrj
