import ModerationGateway.Text.Utf8

/-!
# Base64

Three bytes are written as four letters of an alphabet of sixty-four. Equals signs stand for what
is missing at the end.

* `encode`: the letters of bytes.
-/

namespace ModerationGateway.Text.Base64

/-- The letter of six bits. -/
def letter (n : Nat) : Char :=
  let n := n % 64
  if n < 26 then Char.ofNat (n + 65)
  else if n < 52 then Char.ofNat (n - 26 + 97)
  else if n < 62 then Char.ofNat (n - 52 + 48)
  else if n = 62 then '+'
  else '/'

/-- The letters of bytes. -/
def encode : Bytes → List Char
  | [] => []
  | [a] => [letter (a.toNat / 4), letter (a.toNat * 16), '=', '=']
  | [a, b] =>
    [letter (a.toNat / 4), letter (a.toNat * 16 + b.toNat / 16), letter (b.toNat * 4), '=']
  | a :: b :: c :: rest =>
    letter (a.toNat / 4) :: letter (a.toNat % 4 * 16 + b.toNat / 16) ::
      letter (b.toNat % 16 * 4 + c.toNat / 64) :: letter c.toNat :: encode rest

example : encode [0x75, 0x3A, 0x70] = "dTpw".toList := by decide +kernel
example : encode [0x75, 0x3A] = "dTo=".toList := by decide +kernel

end ModerationGateway.Text.Base64
