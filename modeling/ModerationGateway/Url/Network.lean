import ModerationGateway.Url.Host

/-!
# Networks

A network is the hosts whose numbers start with the same bits.

* `Host.bits?`: the number of a host, with its width;
* `Network`, `Network.contains`: a network, and the numbers in it;
* `Network.ofText?`: the network of a number, behind which a slash may say how many of its bits
  count.
-/

namespace ModerationGateway.Url

/-- The number of a host, behind how many bits it has. -/
def Host.bits? : Host → Option (Nat × Nat)
  | .ipv4 address => some (32, address.toNat)
  | .ipv6 pieces => some (128, Ipv6.number pieces)
  | .name _ => none

/-- The numbers of so many bits of which the first ones are those of an address. -/
structure Network where
  width : Nat
  address : Nat
  /-- How many bits count. -/
  fixed : Nat
  deriving DecidableEq, Repr

namespace Network

/-- A number lies in the network. -/
def contains (n : Network) (bits : Nat × Nat) : Bool :=
  let free := Nat.pow 2 (n.width - n.fixed)
  bits.1 == n.width && bits.2 / free == n.address / free

/-- The number of a text, behind how many bits it has. -/
def bits? (cs : List Char) : Option (Nat × Nat) :=
  match Ipv6.dotted? cs, Ipv6.parse? cs with
  | some pieces, _ => some (32, Ipv6.number pieces)
  | none, some pieces => some (128, Ipv6.number pieces)
  | none, none => none

/-- The network of a text. -/
def ofText? (cs : List Char) : Option Network := do
  let (front, back) := Text.cutAt (· == '/') cs
  let (width, address) ← bits? front
  match back with
  | none => return ⟨width, address, width⟩
  | some digits =>
    let fixed := ofDigits 10 digits
    if digits.isEmpty ∨ (decimalText width).length < digits.length ∨ !digits.all Char.isDigit ∨
        width < fixed then none
    return ⟨width, address, fixed⟩

example : (ofText? "10.0.0.0/8".toList).map (·.contains (32, 0x0A010203)) = some true := by
  decide +kernel
example : (ofText? "10.0.0.0/33".toList) = none := by decide +kernel

end Network

end ModerationGateway.Url
