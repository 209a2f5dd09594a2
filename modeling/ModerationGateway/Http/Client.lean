import ModerationGateway.Http.Redirect
import ModerationGateway.Json.Reader
import ModerationGateway.Text.Base64

/-!
# The client

* `Exchange`: the bytes by which the world answers a request that is sent to an address;
* `identified`: the user in an address becomes a header;
* `follow`: a request on its way through redirects;
* `send`: a request to an address given by its text;
* `postJson`: a JSON document sent, and one expected back.
-/

namespace ModerationGateway.Http

open ModerationGateway.Stream

/-- How a world of type `σ` answers requests: the bytes that come before the connection is
closed. -/
abbrev Exchange (σ : Type) := Url → Request → σ → Bytes × σ

/-- The schemes that the client speaks. -/
def schemes : List String := ["http", "https"]

/-- The client speaks to addresses of this scheme. -/
def speaks (u : Url) : Bool := schemes.contains u.scheme

/-! ### Users -/

/-- The user of an address and the password. A user whose name is no text is none. -/
def user? (u : Url) : Option (String × String) := do
  let authority ← u.authority
  let meant (s : String) : Option String := Utf8.text? (Percent.decode s.toList)
  let user ← meant authority.user
  let password := if authority.password.isEmpty then none else meant authority.password
  if user.isEmpty ∧ password.isNone then none else some (user, password.getD "")

/-- The header value by which a user is known. -/
def credentials (user password : String) : String :=
  "Basic " ++ String.ofList (Text.Base64.encode (Utf8.ofText (user ++ ":" ++ password)))

/-- The user in an address becomes a header, unless there is one already. -/
def identified (u : Url) (h : Headers) : Url × Headers :=
  match user? u with
  | some (user, password) => (u.anonymous, h.ensure "authorization" (credentials user password))
  | none => (u, h)

/-! ### Sending -/

/-- What a request to an address asks for. -/
def targetOf (method : String) (u : Url) : String :=
  if method = "CONNECT" then (u.authority.map Url.Authority.text).getD "" else u.target

/-- A response, and the address that it came from. -/
abbrev Answer := Url × Response

/-- How often a request is sent on. -/
def mostRedirects : Nat := 10

variable {σ : Type}

/-- Send a request, given the address that it was meant for and the one that it goes to, and send
it on so many times. The headers that go along with it this time may be others. -/
def follow (exchange : Exchange σ) (origin : Url) :
    Nat → Url → Headers → Request → σ → Except Failure Answer × σ
  | left, here, headers, r, s =>
    let (bytes, s) := exchange here { r with target := targetOf r.method here, headers } s
    match Response.ofBytes? r.method bytes with
    | none => (.error (.unanswered origin.text), s)
    | some response =>
      match r.redirected? response.status, response.place? here with
      | some next, some there =>
        match left with
        | 0 => (.error (.sentAround here.text), s)
        | left + 1 =>
          if speaks there then
            follow exchange origin left there (onward here there next.headers) next s
          else (.error (.otherAddress there.text), s)
      | _, _ => (.ok (here, response), s)

/-- Send a request to an address given by its text. The client says that it accepts anything,
unless the headers say what. -/
def send (exchange : Exchange σ) (method address : String) (headers : Headers) (body : Bytes)
    (s : σ) : Except Failure Answer × σ :=
  match Url.parse? address with
  | none => (.error .noAddress, s)
  | some url =>
    let (url, headers) := identified url headers
    if speaks url ∧ (Uri.parse? url.text).isSome then
      let headers := (headers.ensure "accept" "*/*").onWire
      follow exchange url mostRedirects url.withoutFragment headers
        ⟨method, url.target, headers, body⟩ s
    else (.error (.otherAddress url.text), s)

/-! ### Documents -/

/-- The document of a response from an address. -/
def document : Answer → Except Failure Json
  | (url, r) =>
    if 400 ≤ r.status ∧ r.status < 600 then .error (.refused r.status r.reason url.text)
    else
      match Arrival.collect r.body with
      | .error _ => .error .undecodable
      | .ok bytes =>
        match Json.ofBytes? bytes with
        | some j => .ok j
        | none => .error .undecodable

/-- Send a JSON document and take one. -/
def postJson (exchange : Exchange σ) (address : String) (body : Json) (s : σ) :
    Except Failure Json × σ :=
  let headers : Headers := [("content-type", Utf8.ofText "application/json")]
  match send exchange "POST" address headers body.bytes s with
  | (.error f, s) => (.error f, s)
  | (.ok answer, s) => (document answer, s)

end ModerationGateway.Http
