import ModerationGateway.Domain.Name
import ModerationGateway.Url.Ipv4
import ModerationGateway.Url.Ipv6
import ModerationGateway.Url.Percent

/-!
# Hosts

* `Host`: who is addressed: by a name, or by a number;
* `Host.text`: how a host is written;
* `Host.ofNetwork?`, `Host.ofOther?`: the host of a text, for the schemes whose hosts are on the
  network, and for all others, which take names as they are.
-/

namespace ModerationGateway.Url

/-- Who is addressed. -/
inductive Host where
  | name (text : String)
  | ipv4 (address : UInt32)
  | ipv6 (pieces : Ipv6.Pieces)
  deriving DecidableEq, Repr

namespace Host

/-- How a host is written. -/
def text : Host → String
  | name text => text
  | ipv4 address => Ipv4.text address
  | ipv6 pieces => "[" ++ Ipv6.text pieces ++ "]"

/-- Nobody is addressed. -/
def isEmpty : Host → Bool
  | name text => text.isEmpty
  | _ => false

/-- What stands in brackets, if a text starts with one. -/
def bracketed? : List Char → Option (Option (List Char))
  | '[' :: rest => if rest.getLast? = some ']' then some (some rest.dropLast) else some none
  | _ => none

/-- The host of a name or of a number in brackets. -/
def ofText? (ofName? : List Char → Option Host) (cs : List Char) : Option Host :=
  match bracketed? cs with
  | some inner => inner.bind fun cs => (Ipv6.parse? cs).map ipv6
  | none => ofName? cs

/-- The host of a name on the network. -/
def ofDomain? (cs : List Char) : Option Host :=
  match (Utf8.decode? (Percent.decode cs)).bind Domain.ascii? with
  | none => none
  | some domain =>
    if domain.isEmpty then none
    else if Ipv4.endsInNumber domain then (Ipv4.parse? domain).map ipv4
    else some (name (String.ofList domain))

/-- The host of a text, on the network. -/
def ofNetwork? (cs : List Char) : Option Host := ofText? ofDomain? cs

/-- A character that no name has. -/
def isForbidden (c : Char) : Bool :=
  ['\x00', '\t', '\n', '\r', ' ', '#', '/', ':', '<', '>', '?', '@', '[', '\\', ']', '^',
    '|'].contains c

/-- The host of a text, elsewhere. -/
def ofOther? (cs : List Char) : Option Host :=
  ofText? (fun cs =>
    if cs.any isForbidden then none else some (name (String.ofList (Percent.encode [] cs)))) cs

end Host

end ModerationGateway.Url
