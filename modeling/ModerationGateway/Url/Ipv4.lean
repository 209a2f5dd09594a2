import ModerationGateway.Number.Digits
import ModerationGateway.Number.Shortest
import ModerationGateway.Text.Split

/-!
# Network addresses of four bytes

Such an address is written as up to four numbers with dots between them. The last number fills the
bytes that are left. A number is hexadecimal behind `0x` and octal behind another zero.

* `number?`, `endsInNumber`: a number, and the names that can only be addresses;
* `parse?`, `text`: the address of a text, and its text as four decimal numbers.
-/

namespace ModerationGateway.Url.Ipv4

/-- The number of digits in a base, if they all are digits in it. -/
def inBase? (base : Nat) (digits : List Char) : Option Nat :=
  if digits.all fun c => (hexDigit? c).any (· < base) then some (ofDigits base digits) else none

/-- A number in the base that its first digits tell. -/
def number? : List Char → Option Nat
  | [] => none
  | '0' :: 'x' :: digits => inBase? 16 digits
  | '0' :: c :: digits => inBase? 8 (c :: digits)
  | digits => inBase? 10 digits

/-- The parts of a name, an empty one at the end left out. -/
def partsOf (name : List Char) : List (List Char) :=
  let parts := Text.splitAt (· == '.') name
  if parts.getLast? = some [] then parts.dropLast else parts

/-- The last part of a name is a number, so that the whole must be an address. -/
def endsInNumber (name : List Char) : Bool :=
  match (partsOf name).getLast? with
  | some last => (!last.isEmpty && last.all Char.isDigit) || (number? last).isSome
  | none => false

/-- The address of some numbers, of which the last one fills the bytes that are left. -/
def ofNumbers? (numbers : List Nat) : Option UInt32 :=
  match numbers.getLast? with
  | none => none
  | some last =>
    let front := numbers.dropLast
    let room := Nat.pow 256 (4 - front.length)
    if front.length < 4 ∧ front.all (· < 256) ∧ last < room then
      some (UInt32.ofNat (front.foldl (fun sum n => sum * 256 + n) 0 * room + last))
    else none

/-- The address of a text. -/
def parse? (name : List Char) : Option UInt32 := ((partsOf name).mapM number?).bind ofNumbers?

/-- The text of an address. -/
def text (address : UInt32) : String :=
  let n := address.toNat
  ".".intercalate ([n / 0x1000000, n / 0x10000 % 256, n / 0x100 % 256, n % 256].map decimalText)

example : parse? "127.1".toList = some 0x7F000001 := by decide +kernel
example : parse? "0x7f.0.010".toList = some 0x7F000008 := by decide +kernel
example : parse? "256".toList = some 0x100 := by decide +kernel
example : parse? "1.2.3.4.5".toList = none := by decide +kernel
example : parse? "1..2".toList = none := by decide +kernel
example : parse? "4294967296".toList = none := by decide +kernel
example : endsInNumber "a.08.".toList = true := by decide +kernel
example : text 0x7F000001 = "127.0.0.1" := by decide +kernel

end ModerationGateway.Url.Ipv4
