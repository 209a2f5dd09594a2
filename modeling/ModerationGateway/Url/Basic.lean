import ModerationGateway.Number.Shortest
import ModerationGateway.Url.Host
import ModerationGateway.Url.Path

/-!
# Addresses

* `Url`: an absolute address by its parts, each in the form in which it is written;
* `Url.text`, `Url.target`: the text of an address, and what a host is asked for;
* `SchemeKind`: what a scheme says about the rest of an address.
-/

namespace ModerationGateway

open Url

/-- Who is addressed, and in whose name. A user without a name and a password is nobody. -/
structure Url.Authority where
  user : String
  password : String
  host : Host
  /-- The port, unless it is that of the scheme. -/
  port : Option UInt16
  deriving DecidableEq, Repr

/-- An absolute address. -/
structure Url where
  scheme : String
  authority : Option Authority
  path : Path
  query : Option String
  fragment : Option String
  deriving DecidableEq, Repr

namespace Url

/-- What a scheme says about the rest of an address. -/
inductive SchemeKind where
  /-- There is a host on the network, and a port if none is given. -/
  | network (port : UInt16)
  /-- A file, on this machine or another. -/
  | file
  | other
  deriving DecidableEq, Repr

/-- The schemes whose hosts are on the network. -/
def networkPorts : List (String × UInt16) :=
  [("http", 80), ("https", 443), ("ws", 80), ("wss", 443), ("ftp", 21)]

/-- The kind of a scheme. -/
def SchemeKind.ofScheme (scheme : String) : SchemeKind :=
  match networkPorts.lookup scheme with
  | some port => network port
  | none => if scheme = "file" then file else other

/-- A backslash counts as a slash. -/
def SchemeKind.isSpecial (k : SchemeKind) : Bool := k != other

/-- A slash of an address of some kind. -/
def SchemeKind.isSlash (k : SchemeKind) (c : Char) : Bool := c == '/' || (k.isSpecial && c == '\\')

/-- A part with its mark in front, if it is there. -/
def marked (mark : String) : Option String → String
  | none => ""
  | some s => mark ++ s

/-- There is no user. -/
def Authority.isAnonymous (a : Authority) : Bool := a.user.isEmpty && a.password.isEmpty

/-- How an authority is written. -/
def Authority.text (a : Authority) : String :=
  (if a.isAnonymous then ""
    else a.user ++ (if a.password.isEmpty then "" else ":" ++ a.password) ++ "@") ++
  a.host.text ++ marked ":" (a.port.map fun port => decimalText port.toNat)

/-- What keeps a path that starts with two slashes from being read as a host. -/
def guardOf (u : Url) : String :=
  match u.authority, u.path with
  | none, .segments ("" :: _ :: _) => "/."
  | _, _ => ""

/-- The text of an address. -/
def text (u : Url) : String :=
  u.scheme ++ ":" ++ marked "//" (u.authority.map Authority.text) ++ u.guardOf ++ u.path.text ++
    marked "?" u.query ++ marked "#" u.fragment

/-- What a host is asked for. -/
def target (u : Url) : String := u.path.text ++ marked "?" u.query

/-- The host, if somebody is addressed. -/
def host? (u : Url) : Option Host := u.authority.map (·.host)

/-- The port, given or usual. -/
def port? (u : Url) : Option UInt16 :=
  match u.authority.bind (·.port) with
  | some port => some port
  | none => networkPorts.lookup u.scheme

/-- The address without its fragment. -/
def withoutFragment (u : Url) : Url := { u with fragment := none }

/-- The address in nobody's name. -/
def anonymous (u : Url) : Url :=
  { u with authority := u.authority.map fun a => { a with user := "", password := "" } }

@[simp] theorem anonymous_anonymous (u : Url) : u.anonymous.anonymous = u.anonymous := by
  simp [anonymous, Option.map_map, Function.comp_def]

@[simp] theorem host?_anonymous (u : Url) : u.anonymous.host? = u.host? := by
  simp [anonymous, host?, Option.map_map, Function.comp_def]

end Url

end ModerationGateway
