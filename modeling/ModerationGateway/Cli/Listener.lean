import ModerationGateway.Url.Host

/-!
# Places to serve at

A host to serve at is a number, which may be written in any of the forms of the network, or a
name. Without a network the only name that stands for a number is that of this machine.

* `Listener`: a host and a port;
* `Listener.hostOf`: the number of a name, or the system's reason why it has none;
* `Listener.complaint?`: why a place cannot be taken, some being taken by others.
-/

namespace ModerationGateway.Cli

open Url

/-- A place to serve at. -/
structure Listener where
  host : Host
  port : UInt16
  deriving DecidableEq, Repr

namespace Listener

/-- The system's reasons. -/
def taken : String := "Address already in use (os error 98)"

/-- The number is that of another machine. -/
def elsewhere : String := "Cannot assign requested address (os error 99)"

/-- A name was looked up in vain. -/
def unknown (reason : String) : String := "failed to lookup address information: " ++ reason

/-- A label of a name that can be looked up. -/
def isLabel (cs : List Char) : Bool :=
  !cs.isEmpty && cs.length ≤ 63 && cs.head? != some '-' &&
    cs.all fun c => c.isAlphanum || c == '-' || c == '_'

/-- A name that can be looked up. -/
def isName (cs : List Char) : Bool :=
  let labels := Text.splitAt (· == '.') cs
  cs.length ≤ 253 && (if labels.getLast? = some [] then labels.dropLast else labels).all isLabel

/-- A number of four bytes. -/
def number? (cs : List Char) : Option UInt32 :=
  let parts := Text.splitAt (· == '.') cs
  if parts.any fun part => part.isEmpty || part == ['0', 'x'] then none else Ipv4.parse? cs

/-- The number that a name stands for. -/
def hostOf (name : String) : Except String Host :=
  let cs := name.toList.map Char.toLower
  let inner := match Host.bracketed? cs with
    | some (some inner) => inner
    | _ => cs
  if cs.contains '\x00' then .error "file name contained an unexpected NUL byte"
  else if cs = "localhost".toList then .ok (.ipv4 0x7F000001)
  else
    match number? cs, Ipv6.parse? inner with
    | some address, _ => .ok (.ipv4 address)
    | none, some pieces => .ok (.ipv6 pieces)
    | none, none =>
      .error (unknown (if !cs.isEmpty && isName cs then "Temporary failure in name resolution"
        else "Name or service not known"))

/-- Every number of this machine. -/
def anyHost : Host := .ipv4 0

/-- The number is one of this machine. -/
def isOwn : Host → Bool
  | .ipv4 address => address = 0 || address.toNat / 0x1000000 = 127
  | .ipv6 pieces => pieces.dropLast.all (· == 0) && pieces.getLast?.any (· ≤ 1)
  | .name _ => false

/-- Two places share a number. -/
def meets (a b : Listener) : Bool :=
  a.port == b.port && (a.host == b.host || a.host == anyHost || b.host == anyHost)

/-- Why a place cannot be taken, if others have some. -/
def complaint? (others : List Listener) (name : String) (port : UInt16) : Option String :=
  match hostOf name with
  | .error reason => some reason
  | .ok host =>
    if !isOwn host then some elsewhere
    else if others.any (meets ⟨host, port⟩) then some taken
    else none

example : (hostOf "127.1").toOption = some (.ipv4 0x7F000001) := by decide +kernel
example : complaint? [⟨.ipv4 0x7F000001, 80⟩] "0" 80 = some taken := by decide +kernel
example : complaint? [] "10.0.0.1" 80 = some elsewhere := by decide +kernel

end Listener

end ModerationGateway.Cli
