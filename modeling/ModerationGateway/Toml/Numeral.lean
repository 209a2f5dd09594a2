import ModerationGateway.Json.Numeral
import ModerationGateway.Json.Reader
import ModerationGateway.Toml.Scan

/-!
# Numbers and moments of TOML

* `integer`: sixty-four bits with a sign, in one of four bases;
* `float`: the nearest double of a decimal numeral, the infinities and the absence of a number;
* `moment`: a date, a time of day or both. It is kept as the text that was written.
-/

namespace ModerationGateway.Toml

open Scan

/-- A decimal digit. -/
def isDigit (c : Char) : Bool := (Json.digit? c).isSome

/-- Digits in groups with a single underscore between them. -/
def grouped (p : Char → Bool) : Scan (List Char) := do
  return (← sepBy1 (takeWhile1 p) (literal "_")).flatten

/-- A sign; true is minus. -/
def sign : Scan Bool := do
  match ← attempt (oneOf fun c => c == '+' || c == '-') with
  | some c => return c == '-'
  | none => return false

/-- The digits of a decimal integer. A zero in front stands alone. -/
def decimalDigits : Scan (List Char) := do
  let digits ← grouped isDigit
  if digits.head? = some '0' ∧ digits.length ≠ 1 then failure else return digits

/-- An integer in a base that a mark tells. -/
def marked (mark : String) (base : Nat) : Scan Int := do
  literal mark
  let digits ← grouped fun c => (hexDigit? c).any fun d => d < base
  let n := ofDigits base digits
  if n < 0x8000000000000000 then return n else failure

/-- An integer in base ten. -/
def decimal : Scan Int := do
  let negative ← sign
  let n := ofDigits 10 (← decimalDigits)
  if negative then
    if n ≤ 0x8000000000000000 then return -(n : Int) else failure
  else if n < 0x8000000000000000 then return n else failure

/-- An integer. -/
def integer : Scan Int := marked "0x" 16 <|> marked "0o" 8 <|> marked "0b" 2 <|> decimal

/-- The double of a significand of so many digits times a power of ten; none stands for infinity.
Far from the doubles the place of the first digit decides. -/
def double? (significand : Nat) (digits : Nat) (exponent : Int) : Option Binary64 :=
  if significand = 0 then some .zero
  else if 400 < exponent + digits then none
  else if exponent + digits < -400 then some .zero
  else if 0 ≤ exponent then Binary64.ofFraction? ⟨significand * Nat.pow 10 exponent.toNat, 1⟩
  else Binary64.ofFraction? ⟨significand, Nat.pow 10 (-exponent).toNat⟩

/-- The digits after a point. -/
def fraction : Scan (List Char) := do
  literal "."
  grouped isDigit

/-- The power of ten after its letter. -/
def exponent : Scan Int := do
  discard <| oneOf fun c => c == 'e' || c == 'E'
  let negative ← sign
  let n := ofDigits 10 (← grouped isDigit)
  return if negative then -(n : Int) else n

/-- The bits of infinity, and of what is no number. -/
def infinity : Binary64 := ⟨0x7FF0000000000000⟩

/-- What is no number. -/
def notANumber : Binary64 := ⟨0x7FF8000000000000⟩

/-- A decimal numeral with a fraction or an exponent. A number above all doubles is refused; one
below all is minus infinity. -/
def finite : Scan Binary64 := do
  let negative ← sign
  let whole ← decimalDigits
  let places ← attempt fraction
  let power ← attempt exponent
  if places.isNone ∧ power.isNone then failure
  let digits := whole ++ places.getD []
  let size : Int := power.getD 0 - (places.getD []).length
  match double? (ofDigits 10 digits) (digits.dropWhile (· == '0')).length size with
  | some x => return if negative then x.negate else x
  | none => if negative then return infinity.negate else failure

/-- A number that a word stands for. -/
def special : Scan Binary64 := do
  let negative ← sign
  let x ← (do literal "inf"; return infinity) <|> (do literal "nan"; return notANumber)
  return if negative then x.negate else x

/-- A double. -/
def float : Scan Binary64 := finite <|> special

/-! ### Moments -/

/-- A number of so many digits within bounds. -/
def field (digits low high : Nat) : Scan Nat := do
  let n := ofDigits 10 (← exactly isDigit digits)
  if low ≤ n ∧ n ≤ high then return n else failure

/-- A year with a twenty-ninth of February. -/
def isLeap (year : Nat) : Bool := (year % 4 == 0 && year % 100 != 0) || year % 400 == 0

/-- The days of a month. -/
def daysIn (year month : Nat) : Nat :=
  if month = 2 then (if isLeap year then 29 else 28)
  else if [4, 6, 9, 11].contains month then 30 else 31

/-- A date. -/
def date : Scan Unit := do
  let year ← field 4 0 9999
  literal "-"
  let month ← field 2 1 12
  literal "-"
  discard <| field 2 1 (daysIn year month)

/-- A time of day. -/
def timeOfDay : Scan Unit := do
  discard <| field 2 0 23
  literal ":"
  discard <| field 2 0 59
  literal ":"
  discard <| field 2 0 60
  discard <| attempt (do literal "."; takeWhile1 isDigit)

/-- The distance from universal time. -/
def offset : Scan Unit :=
  (do discard <| oneOf fun c => c == 'Z' || c == 'z') <|> do
    discard <| oneOf fun c => c == '+' || c == '-'
    discard <| field 2 0 23
    literal ":"
    discard <| field 2 0 59

/-- A date, with a time of day or without, or a time of day alone. -/
def moment : Scan String := do
  let dated : Scan Unit := do
    date
    discard <| attempt do
      discard <| oneOf fun c => c == 'T' || c == 't' || c == ' '
      timeOfDay
      discard <| attempt offset
  return String.ofList (← consumed (dated <|> timeOfDay))

example : (integer.run "-1_000,".toList) = some (-1000, [',']) := by decide +kernel
example : (integer.run "0x1F90".toList) = some (8080, []) := by decide +kernel
example : (float.run "1.5e3".toList) = some (⟨0x4097700000000000⟩, []) := by decide +kernel
example : (float.run "12".toList) = none := by decide +kernel
example : (moment.run "1979-05-27 07:32:00Z]".toList) = some ("1979-05-27 07:32:00Z", [']']) := by
  decide +kernel
example : (moment.run "2023-02-29".toList) = none := by decide +kernel

end ModerationGateway.Toml
