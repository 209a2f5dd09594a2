import ModerationGateway.Number.Digits
import ModerationGateway.Text.Utf8

/-!
# Percent encoding

A character that cannot stand in a part of an address is written by its bytes, each one as two
hexadecimal digits behind a percent sign.

* `escape`, `encode`: one character, and all characters of a text that are not allowed;
* `decode`: the bytes that are meant.
-/

namespace ModerationGateway.Percent

/-- An upper-case hexadecimal digit. -/
def digit (n : Nat) : Char := (hexDigit n).toUpper

/-- The bytes of a character by their digits. -/
def escape (c : Char) : List Char :=
  (String.utf8EncodeChar c).flatMap fun b => ['%', digit (b.toNat / 16), digit b.toNat]

/-- A control character, or one beyond ASCII. -/
def isForeign (c : Char) : Bool := c.toNat < 0x20 || 0x7E < c.toNat

/-- Write the characters of a class by their digits; control characters and those beyond ASCII
always are. -/
def encode (marks : List Char) (cs : List Char) : List Char :=
  cs.flatMap fun c => if isForeign c || marks.contains c then escape c else [c]

/-- The bytes that are meant. A percent sign without two digits stands for itself. -/
def decode : List Char → Bytes
  | [] => []
  | '%' :: a :: b :: rest =>
    match hexDigit? a, hexDigit? b with
    | some high, some low => UInt8.ofNat (high * 16 + low) :: decode rest
    | _, _ => 0x25 :: decode (a :: b :: rest)
  | c :: rest => String.utf8EncodeChar c ++ decode rest

@[simp] theorem encode_nil (marks : List Char) : encode marks [] = [] := rfl

example : encode [' '] ['a', ' ', 'é'] = "a%20%C3%A9".toList := by decide +kernel
example : decode ['%', '4', '1', '%', 'x'] = [0x41, 0x25, 0x78] := by decide +kernel

end ModerationGateway.Percent
