import ModerationGateway.Http.Uri
import ModerationGateway.Json.Writer
import ModerationGateway.Stream.Arrival
import ModerationGateway.Text.Blank

/-!
# Messages

* `Headers`: names in lower case with their values, in the order they came;
* `first?`, `without`, `set`, `ensure`, `onWire`: the headers of a name;
* `Request`, `Response`: messages. The body of a response comes in pieces;
* `Response.json`: a response with a JSON document as its body.
-/

namespace ModerationGateway.Http

open ModerationGateway.Stream

/-- Header lines: names in lower case, and values. -/
abbrev Headers := List (String × Bytes)

namespace Headers

/-- Lines whose names may be in any case. -/
def ofLines (lines : List (String × Bytes)) : Headers :=
  lines.map fun (name, value) => (Text.lowerAscii name, value)

/-- The first value of a name. -/
def first? (h : Headers) (name : String) : Option Bytes := h.lookup name

/-- There is a line of that name. -/
def has (h : Headers) (name : String) : Bool := h.any fun line => line.1 == name

/-- The lines but for those of some names. -/
def without (h : Headers) (names : List String) : Headers :=
  h.filter fun line => !names.contains line.1

/-- One line of a name in place of all. -/
def set (h : Headers) (name value : String) : Headers :=
  h.without [name] ++ [(name, Utf8.ofText value)]

/-- A line of a name, if there is none. -/
def ensure (h : Headers) (name value : String) : Headers :=
  if h.has name then h else h ++ [(name, Utf8.ofText value)]

/-- A space or a tab. -/
def isPadding (b : UInt8) : Bool := b == 0x20 || b == 0x09

/-- A value as it comes over a connection. -/
def trimValue (value : Bytes) : Bytes :=
  ((value.dropWhile isPadding).reverse.dropWhile isPadding).reverse

/-- The lines as they come over a connection: padding around a value is lost. -/
def onWire (h : Headers) : Headers := h.map fun (name, value) => (name, trimValue value)

/-- A text can be a value. -/
def isValue (value : Bytes) : Bool := value.all fun b => b == 0x09 || (0x20 ≤ b && b != 0x7F)

/-- The text of a value that is in visible ASCII. -/
def visible? (value : Bytes) : Option String :=
  if value.all fun b => b == 0x09 || (0x20 ≤ b && b < 0x7F) then Utf8.text? value else none

theorem has_without (h : Headers) {names : List String} {name : String} (hn : name ∈ names) :
    (h.without names).has name = false := by
  simp only [has, without, List.any_eq_false, List.mem_filter, beq_iff_eq]
  rintro line ⟨_, hl⟩ rfl
  simp [hn] at hl

end Headers

/-- A request. Its target names a resource. -/
structure Request where
  method : String
  target : String
  headers : Headers
  body : Bytes
  deriving DecidableEq, Repr

namespace Request

/-- The resource that is named. -/
def uri? (r : Request) : Option Uri := Uri.parse? r.target

/-- The path of the resource. -/
def path (r : Request) : String := (r.uri?.map Uri.fullPath).getD ""

/-- The path of the resource with its query. -/
def pathAndQuery (r : Request) : String := (r.uri?.map Uri.target).getD ""

end Request

/-- A response. The reason is the wording beside the status. -/
structure Response where
  status : Nat
  reason : String
  headers : Headers
  body : List Arrival
  deriving DecidableEq, Repr

namespace Response

/-- The status tells of success. -/
def isSuccess (r : Response) : Bool := 200 ≤ r.status && r.status < 300

/-- A response with bytes of JSON. -/
def ofJsonBytes (status : Nat) (body : Bytes) : Response :=
  ⟨status, "", [("content-type", Utf8.ofText "application/json")], [.chunk body]⟩

/-- A response with a JSON document. -/
def json (status : Nat) (body : Json) : Response := ofJsonBytes status body.bytes

/-- The bytes of the body that come. -/
def bytes (r : Response) : Bytes := Arrival.received r.body

/-- The news that a part of the body is missing, if it is. -/
def failure? (r : Response) : Option String :=
  match Arrival.collect r.body with
  | .ok _ => none
  | .error message => some message

end Response

end ModerationGateway.Http
