import ModerationGateway.Json.Record
import ModerationGateway.Json.Writer

/-!
# Block envelopes

An envelope is what a client receives in place of refused content. It is one line of JSON, so it
can also end an event stream.

* `Envelope`, `Envelope.bytes`: the three fields and their written form;
* `promptViolation`, `responseViolation`, `sensitiveWords`, `unavailable`: the four occasions;
* `Envelope.ofJson?`: reading one back.
-/

namespace ModerationGateway.Moderation

/-- What a client receives in place of refused content. -/
structure Envelope where
  code : Int
  msg : String
  detail : String
  deriving DecidableEq, Repr

namespace Envelope

/-- The codes are thirty-two bits wide. -/
def codeInRange (code : Int) : Bool := -0x80000000 ≤ code && code < 0x80000000

/-- The JSON form. -/
def toJson (e : Envelope) : Json :=
  .object [("code", .number (.integer e.code)), ("msg", .string e.msg),
    ("detail", .string e.detail)]

/-- The written form. -/
def bytes (e : Envelope) : Bytes := e.toJson.bytes

/-- The code of a document. -/
def code? : Json → Option Int
  | .number (.integer code) => if codeInRange code then some code else none
  | _ => none

/-- The envelope of a document. -/
def ofJson? (j : Json) : Option Envelope := do
  let r ← j.record? .json ["code", "msg", "detail"]
  some {
    code := ← r.required? "code" code?
    msg := ← r.required? "msg" Json.text?
    detail := ← r.required? "detail" Json.text? }

/-- How a checker's finding is reported. -/
def finding (text : String) : String := "检测结果：" ++ text

/-- The prompt was refused by a checker. -/
def promptViolation (reason : String) : Envelope := ⟨1400, "内容不符合规范", finding reason⟩

/-- The answer was refused by a checker. -/
def responseViolation (reason : String) : Envelope := ⟨1401, "返回内容违规", finding reason⟩

/-- The prompt holds listed words. -/
def sensitiveWords (hits : List String) : Envelope :=
  ⟨1402, "请求包含敏感词", "[" ++ ", ".intercalate hits ++ "]"⟩

/-- No checker could answer. -/
def unavailable (code : String) : Envelope := ⟨1503, "内容安全检测服务不可用", code⟩

end Envelope

end ModerationGateway.Moderation
