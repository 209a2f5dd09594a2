import ModerationGateway.Json.Value

/-!
# JSON numerals

A numeral without point and exponent is an integer if sixty-four bits hold it. Every other numeral
is a double: its leading digits that fit in sixty-four bits make an integer, which is rounded to a
double and then scaled by the power of ten that the point, the exponent and the omitted digits
leave. A magnitude beyond the doubles is refused, one below them is zero.

* `takeDigits`: digits into a bounded significand;
* `scale?`: a significand times a power of ten;
* `readNumber`: a numeral at the front of a text.
-/

namespace ModerationGateway.Json

/-- The largest significand. -/
def maxSignificand : Nat := 0xFFFFFFFFFFFFFFFF

/-- The value of a decimal digit. -/
def digit? (c : Char) : Option Nat :=
  if '0' ≤ c ∧ c ≤ '9' then some (c.toNat - '0'.toNat) else none

/-- Read digits into a significand as long as it stays in bounds. Gives the significand, how many
digits went into it, and the rest, which starts with the first digit that did not fit. -/
def takeDigits (significand count : Nat) : List Char → Nat × Nat × List Char
  | [] => (significand, count, [])
  | c :: cs =>
    match digit? c with
    | none => (significand, count, c :: cs)
    | some d =>
      if significand * 10 + d ≤ maxSignificand then
        takeDigits (significand * 10 + d) (count + 1) cs
      else (significand, count, c :: cs)

/-- Count the digits in front of a text and drop them. -/
def skipDigits (count : Nat) : List Char → Nat × List Char
  | [] => (count, [])
  | c :: cs => if (digit? c).isSome then skipDigits (count + 1) cs else (count, c :: cs)

/-- A text starts with a digit. -/
def startsWithDigit : List Char → Bool
  | c :: _ => (digit? c).isSome
  | [] => false

/-- A magnitude times `10 ^ exponent`, at most 308 powers of ten at a time, rounded after each
step. -/
def scaleFrom? : Nat → Binary64 → Int → Option Binary64
  | 0, _, _ => none
  | fuel + 1, f, exponent =>
    if exponent.natAbs ≤ 308 then do
      let power ← Binary64.ofNat? (Nat.pow 10 exponent.natAbs)
      if 0 ≤ exponent then f.mul? power else f.div? power
    else if f.magnitudeBits = 0 then some f
    else if 0 ≤ exponent then none
    else do
      let power ← Binary64.ofNat? (Nat.pow 10 308)
      scaleFrom? fuel (← f.div? power) (exponent + 308)

/-- The double of `significand * 10 ^ exponent`, if it is finite. Four divisions by `10 ^ 308`
bring every significand below the least double, so the fuel is not exhausted. -/
def scale? (significand : Nat) (exponent : Int) : Option Binary64 := do
  scaleFrom? 6 (← Binary64.ofNat? significand) exponent

/-- A double with the sign of its numeral. -/
def signed (negative : Bool) (x : Binary64) : Number :=
  .double (if negative then x.negate else x)

/-- The largest exponent that is added to the place of the point; a larger one decides at once. -/
def maxExponent : Nat := 0x7FFFFFFF

/-- An exponent in the range that is added up. -/
def clampExponent (e : Int) : Int := max (-0x80000000) (min e 0x7FFFFFFF)

/-- Read digits of an exponent. The flag tells whether it stayed in bounds. -/
def takeExponent (e : Nat) : List Char → Nat × Bool × List Char
  | [] => (e, true, [])
  | c :: cs =>
    match digit? c with
    | none => (e, true, c :: cs)
    | some d =>
      if e * 10 + d ≤ maxExponent then takeExponent (e * 10 + d) cs
      else (e, false, (skipDigits 0 cs).2)

/-- Read an exponent after its letter and finish the numeral. -/
def readExponent (negative : Bool) (significand : Nat) (place : Int) (cs : List Char) :
    Option (Number × List Char) :=
  let (down, cs) := match cs with
    | '+' :: rest => (false, rest)
    | '-' :: rest => (true, rest)
    | rest => (false, rest)
  if startsWithDigit cs then
    match takeExponent 0 cs with
    | (e, true, rest) =>
      let total := clampExponent (if down then place - e else place + e)
      (scale? significand total).map fun x => (signed negative x, rest)
    | (_, false, rest) =>
      if significand ≠ 0 ∧ !down then none else some (signed negative .zero, rest)
  else none

/-- Finish a numeral after its digits: an exponent may follow. -/
def finishDouble (negative : Bool) (significand : Nat) (place : Int) (cs : List Char) :
    Option (Number × List Char) :=
  match cs with
  | 'e' :: rest => readExponent negative significand place rest
  | 'E' :: rest => readExponent negative significand place rest
  | _ => (scale? significand place).map fun x => (signed negative x, cs)

/-- Read the digits after a point. Those beyond the bound of the significand do not count. -/
def readFraction (negative : Bool) (significand : Nat) (place : Int) (cs : List Char) :
    Option (Number × List Char) :=
  if startsWithDigit cs then
    let (significand, count, rest) := takeDigits significand 0 cs
    finishDouble negative significand (place - count) (skipDigits 0 rest).2
  else none

/-- Finish a numeral after the digits of its integer part that fit. -/
def finishNumber (negative : Bool) (significand : Nat) (cs : List Char) :
    Option (Number × List Char) :=
  match cs with
  | '.' :: rest => readFraction negative significand 0 rest
  | 'e' :: rest => readExponent negative significand 0 rest
  | 'E' :: rest => readExponent negative significand 0 rest
  | _ =>
    if startsWithDigit cs then
      let (omitted, rest) := skipDigits 0 cs
      match rest with
      | '.' :: rest => readFraction negative significand omitted rest
      | _ => finishDouble negative significand omitted rest
    else if negative then
      if significand = 0 ∨ 0x8000000000000000 < significand then
        (Binary64.ofNat? significand).map fun x => (signed true x, cs)
      else some (.integer (-(significand : Int)), cs)
    else some (.integer significand, cs)

/-- Read the digits of a numeral after its sign. A zero in front stands alone. -/
def readUnsigned (negative : Bool) (cs : List Char) : Option (Number × List Char) :=
  match cs with
  | '0' :: rest => if startsWithDigit rest then none else finishNumber negative 0 rest
  | _ =>
    if startsWithDigit cs then
      let (significand, _, rest) := takeDigits 0 0 cs
      finishNumber negative significand rest
    else none

/-- Read a numeral at the front of a text. -/
def readNumber : List Char → Option (Number × List Char)
  | '-' :: rest => readUnsigned true rest
  | cs => readUnsigned false cs

end ModerationGateway.Json
