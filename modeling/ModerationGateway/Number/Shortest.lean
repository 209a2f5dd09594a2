import ModerationGateway.Number.Binary64

/-!
# Shortest decimal text

The text of a double has the fewest significant digits that read back to it, and of those the
nearest ones, the even last digit on a tie. It is positional while the point falls within sixteen
digits, and always shows a point or an exponent.

* `decimalDigits`: the decimal digits of a natural number;
* `Binary64.shortest`: the digits and the power of ten of their last place;
* `Binary64.text`: the text.
-/

namespace ModerationGateway

/-- The decimal digits of a natural number. -/
def decimalDigits (n : Nat) : List Char := Nat.toDigits 10 n

/-- The decimal text of a natural number. -/
def decimalText (n : Nat) : String := String.ofList (decimalDigits n)

/-- The decimal text of an integer, a minus sign in front of a negative one. -/
def signedDecimal (i : Int) : List Char :=
  match i with
  | .ofNat n => decimalDigits n
  | .negSucc n => '-' :: decimalDigits (n + 1)

namespace Binary64

/-- The fraction `d * 10 ^ p`. -/
def tens (d : Nat) (p : Int) : Fraction :=
  match p with
  | .ofNat k => ⟨d * Nat.pow 10 k, 1⟩
  | .negSucc k => ⟨d, Nat.pow 10 (k + 1)⟩

/-- A decimal rounds to the double: its magnitude has the same bits. -/
def readsBack (x : Binary64) (d : Nat) (p : Int) : Bool :=
  roundBits (tens d p) == x.magnitudeBits

/-- Of the two neighbours of the magnitude on the grid of step `10 ^ p`, the nearer one that
reads back; the even one on a tie. -/
def onGrid? (x : Binary64) (p : Int) : Option Nat :=
  let scaled := x.fraction.div (tens 1 p)
  let low := scaled.num / scaled.den
  let near := scaled.round
  let far := if near = low then low + 1 else low
  if x.readsBack near p then some near
  else if x.readsBack far p then some far
  else none

/-- The position of the decimal point of a positive fraction: the least `k` with value below
`10 ^ k`, searched upwards. -/
def pointFrom (x : Fraction) : Nat → Int → Int
  | 0, k => k
  | fuel + 1, k => if x.lt (tens 1 k) then k else pointFrom x fuel (k + 1)

/-- The digits and the exponent of ten of the first grid, from one digit to seventeen, that holds
a decimal that reads back. -/
def shortestFrom (x : Binary64) (point : Int) : Nat → Nat → Nat × Int
  | 0, n => (x.fraction.div (tens 1 (point - n)) |>.round, point - n)
  | fuel + 1, n =>
    match x.onGrid? (point - n) with
    | some d => (d, point - n)
    | none => shortestFrom x point fuel (n + 1)

/-- Move the zeros at the end of a digit string into the exponent. -/
def dropZeros : Nat → Nat × Int → Nat × Int
  | 0, r => r
  | fuel + 1, (d, p) => if d % 10 = 0 ∧ d ≠ 0 then dropZeros fuel (d / 10, p + 1) else (d, p)

/-- The shortest digits of a positive magnitude and the exponent of ten of the last one. -/
def shortest (x : Binary64) : Nat × Int :=
  let v := x.fraction
  let lowerBound : Int := ((v.num.log2 : Int) - (v.den.log2 : Int) - 1) * 30103 / 100000 - 1
  dropZeros 20 (shortestFrom x (pointFrom v 6 lowerBound) 16 1)

/-- The text of an exponent, always with its sign. -/
def exponentText (e : Int) : List Char :=
  match e with
  | .ofNat n => 'e' :: '+' :: decimalDigits n
  | .negSucc n => 'e' :: '-' :: decimalDigits (n + 1)

/-- Place the point in a digit string: `point` digits stand before it. -/
def layout (digits : List Char) (point : Int) : List Char :=
  let count : Int := digits.length
  if count ≤ point ∧ point ≤ 16 then
    digits ++ List.replicate (point - count).toNat '0' ++ ['.', '0']
  else if 0 < point ∧ point ≤ 16 then
    digits.take point.toNat ++ '.' :: digits.drop point.toNat
  else if -5 < point ∧ point ≤ 0 then
    '0' :: '.' :: List.replicate (-point).toNat '0' ++ digits
  else
    let mantissa := match digits with
      | d :: rest => if rest.isEmpty then [d] else d :: '.' :: rest
      | [] => []
    mantissa ++ exponentText (point - 1)

/-- The text of a finite double. -/
def text (x : Binary64) : List Char :=
  let magnitude :=
    if x.magnitudeBits = 0 then ['0', '.', '0']
    else
      let (d, p) := x.shortest
      let digits := decimalDigits d
      layout digits (p + digits.length)
  if x.isNegative then '-' :: magnitude else magnitude

end Binary64

end ModerationGateway
