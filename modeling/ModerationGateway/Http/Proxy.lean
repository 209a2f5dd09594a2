import ModerationGateway.Http.Client
import ModerationGateway.Url.Network

/-!
# Proxies

Variables of the environment may name a server through which requests go, and hosts that are
exempt from that.

* `Exemption`, `Exemption.covers`: the hosts that need no proxy: a network or a domain;
* `Proxy`, `Proxies`: a server that requests go through, and which one serves which scheme;
* `Proxies.ofVariables`: what variables name;
* `Proxies.through`: an exchange in which requests go through the proxies.
-/

namespace ModerationGateway.Http

open Url

/-! ### Exemptions -/

/-- Hosts that need no proxy. -/
inductive Exemption where
  | network (network : Network)
  /-- A domain and all below it. -/
  | domain (name : String)
  deriving DecidableEq, Repr

/-- A name is that of a domain or of something below it. -/
def isBelow (name domain : String) : Bool :=
  let name := (Text.lowerAscii name).toList
  let domain := (Text.lowerAscii domain).toList
  let bare := match domain with
    | '.' :: rest => rest
    | _ => domain
  domain = ['*'] || name = bare || (('.' :: bare).isSuffixOf name)

/-- The exemption covers a host. -/
def Exemption.covers (e : Exemption) (host : Host) : Bool :=
  match e, host.bits? with
  | .network n, some bits => n.contains bits
  | .domain d, none => isBelow host.text d
  | _, _ => false

/-- The exemption that a text names. -/
def Exemption.ofText (cs : List Char) : Exemption :=
  match Network.ofText? cs with
  | some n => .network n
  | none => .domain (String.ofList cs)

/-- The exemptions of a text, commas between them. -/
def exemptions (s : String) : List Exemption :=
  let texts := (Text.splitAt (· == ',') s.toList).map Text.trim
  (texts.filter (!·.isEmpty)).map Exemption.ofText

/-! ### Servers -/

/-- A server that requests go through. -/
structure Proxy where
  /-- Where it is, if that means anything. -/
  address : Option Url
  /-- How it is told who asks. -/
  credentials : Option String
  deriving DecidableEq, Repr

/-- The schemes that proxies are named with. -/
def Proxy.schemes : List String := ["http", "https", "socks4", "socks4a", "socks5", "socks5h"]

/-- The proxy of a text. The scheme may be left out, and a user may be named. -/
def Proxy.ofText? (s : String) : Option Proxy := do
  let uri ← Uri.parse? s
  let authority ← uri.authority
  let scheme := Text.lowerAscii (uri.scheme.getD "http")
  if !Proxy.schemes.contains scheme then none
  let (front, back) := Text.cutAt (· == '@') authority.toList
  let meant (cs : List Char) : String := Utf8.textLossy (Percent.decode cs)
  let (user, password) := Text.cutAt (· == ':') front
  return {
    address := Url.parse? ((if scheme = "https" then "https" else "http") ++ "://" ++
      String.ofList (back.getD front))
    credentials := back.map fun _ => Http.credentials (meant user) (meant (password.getD [])) }

/-- The proxies for the two schemes, and the hosts that need none. -/
structure Proxies where
  plain : Option Proxy
  secure : Option Proxy
  exempt : List Exemption
  deriving DecidableEq, Repr

namespace Proxies

/-- No proxies. -/
def none : Proxies := ⟨.none, .none, []⟩

/-- The variables that name proxies. -/
def variableNames : List String :=
  ["HTTP_PROXY", "http_proxy", "HTTPS_PROXY", "https_proxy", "ALL_PROXY", "all_proxy", "NO_PROXY",
    "no_proxy", "REQUEST_METHOD"]

/-- The proxies that variables name. A program that answers a request itself must not let the
client choose them. -/
def ofVariables (env : List (String × String)) : Proxies :=
  let value (upper lower : String) : String :=
    (env.lookup upper <|> env.lookup lower).getD ""
  let all := value "ALL_PROXY" "all_proxy"
  let proxy (s : String) : Option Proxy := Proxy.ofText? s <|> Proxy.ofText? all
  if (env.lookup "REQUEST_METHOD").isSome then none
  else
    { plain := proxy (value "HTTP_PROXY" "http_proxy")
      secure := proxy (value "HTTPS_PROXY" "https_proxy")
      exempt := exemptions (value "NO_PROXY" "no_proxy") }

/-- The proxy for an address. -/
def find? (p : Proxies) (url : Url) : Option Proxy :=
  match url.host? with
  | .none => .none
  | some host =>
    if p.exempt.any (·.covers host) then .none
    else if url.scheme = "https" then p.secure
    else p.plain

/-- The request as a proxy is asked it: it names the whole address. -/
def asked (proxy : Proxy) (url : Url) (r : Request) : Request :=
  { r with
    target := if r.method = "CONNECT" then r.target else url.withoutFragment.text
    headers := match proxy.credentials with
      | some c => r.headers.ensure "proxy-authorization" c
      | .none => r.headers }

variable {σ : Type}

/-- An exchange in which requests go through the proxies. No proxy answers for a host that is to
be asked in secret. -/
def through (p : Proxies) (exchange : Exchange σ) : Exchange σ := fun url r s =>
  match p.find? url with
  | .none => exchange url r s
  | some proxy =>
    match proxy.address with
    | some there => if url.scheme = "https" then ([], s) else exchange there (asked proxy url r) s
    | .none => ([], s)

end Proxies

example : (exemptions "10.0.0.0/8, .a.b").map (·.covers (.ipv4 0x0A010203)) = [true, false] := by
  decide +kernel
example : (exemptions "10.0.0.0/8, .a.b").map (·.covers (.name "x.a.b")) = [false, true] := by
  decide +kernel
example : (exemptions "a.b").map (·.covers (.name "xa.b")) = [false] := by decide +kernel

end ModerationGateway.Http
