import ModerationGateway.Http.Reply
import ModerationGateway.Url.Parser

/-!
# Redirects

A response may say that a request is to be sent elsewhere.

* `redirected?`: the request that is sent on after a response of some status;
* `place?`: where a response says that it is to be sent;
* `onward`: the headers that go along. Another host is not told what only the first one may know.
-/

namespace ModerationGateway.Http

/-- Headers about a body. -/
def bodyHeaders : List String :=
  ["content-type", "content-length", "content-encoding", "transfer-encoding"]

/-- Headers that only the host they were meant for may see. -/
def secretHeaders : List String :=
  ["authorization", "cookie", "cookie2", "proxy-authorization", "www-authenticate"]

/-- A request under another method, without its body. -/
def Request.emptied (r : Request) (method : String) : Request :=
  { r with method, headers := r.headers.without bodyHeaders, body := [] }

/-- The request that is sent on after a response of some status, if that is a redirect. -/
def Request.redirected? (r : Request) (status : Nat) : Option Request :=
  match status with
  | 301 | 302 => some (if r.method = "POST" then r.emptied "GET" else r)
  | 303 => some (r.emptied (if r.method = "HEAD" then "HEAD" else "GET"))
  | 307 | 308 => some r
  | _ => none

/-- Where a response from an address says that the request is to be sent. -/
def Response.place? (r : Response) (here : Url) : Option Url := do
  let value ← r.headers.first? "location"
  let url ← here.join? (← Utf8.text? value)
  let uri ← Uri.parse? url.text
  Url.parse? uri.text

/-- The way from one address to another leaves the host. -/
def leavesHost (here there : Url) : Bool :=
  here.host? != there.host? || here.port? != there.port?

/-- The headers that go along from one address to another. The second is told of the first, unless
that would be less safe. -/
def onward (here there : Url) (h : Headers) : Headers :=
  let h := if leavesHost here there then h.without secretHeaders else h
  if here.scheme = "https" ∧ there.scheme = "http" then h
  else h.set "referer" here.anonymous.withoutFragment.text

/-- Nothing secret leaves the host. -/
theorem has_onward {here there : Url} (h : leavesHost here there = true) (headers : Headers)
    {name : String} (hn : name ∈ secretHeaders) : (onward here there headers).has name = false := by
  have hr : name ≠ "referer" := by rintro rfl; revert hn; decide
  have hw := headers.has_without hn
  unfold onward
  simp only [h, if_true]
  split
  · exact hw
  · simp only [Headers.set, Headers.has, List.any_append, List.any_cons, List.any_nil,
      Bool.or_false, Bool.or_eq_false_iff, beq_eq_false_iff_ne, ne_eq]
    refine ⟨?_, fun h => hr h.symm⟩
    simp only [Headers.has, List.any_eq_false, Headers.without, List.mem_filter] at hw ⊢
    exact fun line hl => hw line hl.1

end ModerationGateway.Http
