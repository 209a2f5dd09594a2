import ModerationGateway.Fault
import ModerationGateway.Config.Rule
import ModerationGateway.Moderation.Verdict

/-!
# The vendor `shumei`

* `requestBody`: what the vendor is sent;
* `interpret`: what its reply means. One risk level passes a text; any other refuses it, with the
  description as reason if there is one.
-/

namespace ModerationGateway.Moderation.Shumei

/-- The vendor's name. -/
def vendor : String := "shumei"

/-- The code of success. -/
def successCode : Nat := 1100

/-- The risk level that passes a text. -/
def passLevel : String := "PASS"

/-- What the vendor is sent. -/
def requestBody (c : ContentSecurity) (q : Question) : Json :=
  .object [("accessKey", .string c.accessKey), ("appId", .string c.appId),
    ("eventId", .string c.eventId), ("type", .string c.kind),
    ("data", .object [("text", .string q.text), ("tokenId", .string c.appId)])]

/-- A reply that cannot be read. -/
def malformed (message : String) : Fault := .malformedReply vendor message

/-- The string of a field. -/
def text? (j : Json) (name : String) : Option String := (j.member? name).bind Json.string?

/-- The verdict of a risk level and its description. -/
def judge (level : String) (description : Option String) : Verdict :=
  if level = passLevel then .pass
  else
    match description with
    | some d => .block (if d.isEmpty then level else d) vendor
    | none => .block level vendor

/-- The meaning of a reply. -/
def interpret (body : Json) : Except Fault Verdict :=
  match (body.member? "code").bind Json.natural? with
  | none => .error (malformed "missing code")
  | some code =>
    if code = successCode then
      match text? body "riskLevel" with
      | none => .error (malformed "missing riskLevel")
      | some level => .ok (judge level (text? body "riskDescription"))
    else
      .error (malformed ("unexpected code " ++ decimalText code ++ ": " ++
        (text? body "message").getD ""))

end ModerationGateway.Moderation.Shumei
