/-!
# Double-precision numbers

A finite IEEE 754 double is an integer multiple of a power of two. Arithmetic is exact arithmetic
on fractions followed by one rounding, to the nearest double and to the even one of two.

* `Fraction`: a non-negative quotient of natural numbers;
* `Binary64`: the bits of a double, `Binary64.fraction` its magnitude;
* `roundBits`: the bits of the nearest double of a fraction;
* `mul`, `div`, `add`, `ofNat`: the rounded operations on non-negative doubles.
-/

namespace ModerationGateway

/-- A non-negative quotient of natural numbers. -/
structure Fraction where
  num : Nat
  den : Nat
  deriving DecidableEq, Repr

namespace Fraction

/-- The product of two fractions. -/
def mul (x y : Fraction) : Fraction := ⟨x.num * y.num, x.den * y.den⟩

/-- The quotient of two fractions. -/
def div (x y : Fraction) : Fraction := ⟨x.num * y.den, x.den * y.num⟩

/-- The sum of two fractions. -/
def add (x y : Fraction) : Fraction := ⟨x.num * y.den + y.num * x.den, x.den * y.den⟩

/-- The fraction `m * 2 ^ e`. -/
def scaled (m : Nat) (e : Int) : Fraction :=
  match e with
  | .ofNat k => ⟨m * Nat.pow 2 k, 1⟩
  | .negSucc k => ⟨m, Nat.pow 2 (k + 1)⟩

/-- Not larger than. -/
def le (x y : Fraction) : Bool := x.num * y.den ≤ y.num * x.den

/-- Smaller than. -/
def lt (x y : Fraction) : Bool := x.num * y.den < y.num * x.den

/-- The nearest natural number, the even one of two. -/
def round (x : Fraction) : Nat :=
  let q := x.num / x.den
  let r := x.num % x.den
  if 2 * r < x.den then q
  else if x.den < 2 * r then q + 1
  else q + q % 2

end Fraction

/-- A double, by its bits: sign, eleven bits of exponent, fifty-two bits of fraction. -/
structure Binary64 where
  bits : UInt64
  deriving DecidableEq, Repr

namespace Binary64

/-- The leading bit of a significand, which is left out of the bits. -/
def leadingBit : Nat := 0x10000000000000

/-- The bit of the sign. -/
def signBit : Nat := 0x8000000000000000

/-- The bits that stand for the magnitude infinity. -/
def infinityBits : Nat := 0x7FF * leadingBit

/-- The power of two of the last place of the doubles around a fraction: fifty-three significant
bits, but never below `2 ^ (-1074)`. -/
def lastPlace (x : Fraction) : Int :=
  let guess : Int := (x.num.log2 : Int) - (x.den.log2 : Int) - 53
  let scaledDown := x.div (.scaled 1 guess)
  let e := if scaledDown.num / scaledDown.den < 2 * leadingBit then guess else guess + 1
  max e (-1074)

/-- The bits of the double nearest to a fraction. A rounding that carries into the next power of
two carries into the exponent field as well. -/
def roundBits (x : Fraction) : Nat :=
  if x.num = 0 then 0
  else
    let e := lastPlace x
    ((e + 1074).toNat) * leadingBit + (x.div (.scaled 1 e)).round

/-- The double nearest to a fraction, if it is finite. -/
def ofFraction? (x : Fraction) : Option Binary64 :=
  let bits := roundBits x
  if bits < infinityBits then some ⟨UInt64.ofNat bits⟩ else none

/-- The sign bit is set. -/
def isNegative (x : Binary64) : Bool := signBit ≤ x.bits.toNat

/-- The bits of the magnitude. -/
def magnitudeBits (x : Binary64) : Nat := x.bits.toNat % signBit

/-- The integer and the exponent of two whose product is the magnitude. -/
def decompose (x : Binary64) : Nat × Int :=
  let field : Nat := x.magnitudeBits / leadingBit
  let rest : Nat := x.magnitudeBits % leadingBit
  if field = 0 then (rest, -1074) else (rest + leadingBit, (field : Int) - 1075)

/-- The magnitude of a finite double. -/
def fraction (x : Binary64) : Fraction := .scaled x.decompose.1 x.decompose.2

/-- Zero. -/
def zero : Binary64 := ⟨0⟩

/-- The double with the sign bit set. -/
def negate (x : Binary64) : Binary64 := ⟨UInt64.ofNat (x.magnitudeBits + signBit)⟩

/-- The double nearest to a natural number, if it is finite. -/
def ofNat? (n : Nat) : Option Binary64 := ofFraction? ⟨n, 1⟩

/-- The rounded product of two magnitudes, if it is finite. -/
def mul? (x y : Binary64) : Option Binary64 := ofFraction? (x.fraction.mul y.fraction)

/-- The rounded quotient of two magnitudes, if it is finite. -/
def div? (x y : Binary64) : Option Binary64 := ofFraction? (x.fraction.div y.fraction)

/-- The rounded sum of two magnitudes, if it is finite. -/
def add? (x y : Binary64) : Option Binary64 := ofFraction? (x.fraction.add y.fraction)

example : ofFraction? ⟨1, 10⟩ = some ⟨0x3FB999999999999A⟩ := by decide +kernel
example : ofFraction? ⟨0x20000000000001, 1⟩ = some ⟨0x4340000000000000⟩ := by decide +kernel
example : ofNat? 1 = some ⟨0x3FF0000000000000⟩ := by decide +kernel
example : ofFraction? ⟨1, Nat.pow 2 1074⟩ = some ⟨1⟩ := by decide +kernel
example : ofNat? (Nat.pow 10 309) = none := by decide +kernel

end Binary64

end ModerationGateway
