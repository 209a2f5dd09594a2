import ModerationGateway.Http.Chunked
import ModerationGateway.Http.Failure

/-!
# Replies

* `Framing`, `Framing.ofHead?`: how the end of a body is told, and what a head says about it;
* `Framing.body`: the body, given the bytes that come before the connection is closed;
* `Response.ofBytes?`: the response of all bytes that come over a connection.
-/

namespace ModerationGateway.Http

open ModerationGateway.Stream

/-- How the end of a body is told. -/
inductive Framing where
  /-- There is no body. -/
  | empty
  /-- The length is given. -/
  | sized (length : Nat)
  | chunked
  /-- The connection is closed. -/
  | untilClosed
  deriving DecidableEq, Repr

/-- The values of a name. -/
def Headers.all (h : Headers) (name : String) : List Bytes :=
  (h.filter fun line => line.1 == name).map (·.2)

namespace Framing

/-- A length in decimal digits. -/
def length? (cs : List Char) : Option Nat :=
  let digits := Text.trim cs
  let n := ofDigits 10 digits
  if digits.isEmpty ∨ !digits.all Char.isDigit ∨ UInt64.size - 2 ≤ n then none else some n

/-- The length that all values agree on. Each one may list it several times. -/
def agreed? (values : List Bytes) : Option Nat :=
  let texts := values.map fun value =>
    (Headers.visible? value).map fun text => Text.splitAt (· == ',') text.toList
  match (texts.mapM id).bind fun lists => lists.flatten.mapM length? with
  | some (n :: ns) => if ns.all (· == n) then some n else none
  | _ => none

/-- The last coding of a body is that into chunks. -/
def endsChunked (value : Bytes) : Bool :=
  match Headers.visible? value with
  | some text =>
    let last := (Text.splitAt (· == ',') text.toList).getLast?.getD []
    Text.lowerAscii (String.ofList (Text.trim last)) = "chunked"
  | none => false

/-- The reply to a request has no body, whatever is sent. -/
def isBodiless (method : String) (status : Nat) : Bool :=
  [101, 204, 304].contains status || method == "HEAD" ||
    (method == "CONNECT" && 200 ≤ status && status < 300)

/-- What a head says about the body of the reply to a request. -/
def ofHead? (method : String) (h : Head) : Option Framing :=
  if isBodiless method h.status then some .empty
  else
    match (h.headers.all "transfer-encoding").getLast?, h.headers.all "content-length" with
    | some coding, _ =>
      if h.minor = 0 then none else some (if endsChunked coding then .chunked else .untilClosed)
    | none, [] => some .untilClosed
    | none, lengths => (agreed? lengths).map .sized

/-- A piece of a body is missing. -/
def missing : Arrival := .failed Failure.undecodable.message

/-- The body, given the bytes that come before the connection is closed. -/
def body (f : Framing) (bs : Bytes) : List Arrival :=
  let arrived (bs : Bytes) : List Arrival := if bs.isEmpty then [] else [.chunk bs]
  match f with
  | empty => []
  | sized length => arrived (bs.take length) ++ if bs.length < length then [missing] else []
  | chunked => Chunked.chunks missing bs
  | untilClosed => arrived bs

end Framing

/-- The response to a request, given all bytes that come over the connection. Heads that only tell
that another one follows are passed over. -/
def Response.ofBytes? (method : String) (bs : Bytes) : Option Response :=
  match _ : Head.ofBytes? bs with
  | none => none
  | some (head, rest) =>
    if head.isInterim then ofBytes? method rest
    else
      (Framing.ofHead? method head).map fun framing =>
        ⟨head.status, head.reason, head.headers, framing.body rest⟩
  termination_by bs.length
  decreasing_by exact Head.length_of_ofBytes? ‹_›

end ModerationGateway.Http
