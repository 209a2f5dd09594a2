import ModerationGateway.Text.Split

/-!
# Punycode

A text of any characters written in letters, digits and hyphens. The ASCII characters come first,
then a hyphen if there are any, then numbers that say which character is put in next and where. A
number is written in digits of a base that shrinks with the place, so that it shows where it ends.

* `encode`, `decode?`: the written form of a text, and the text of a written form.
-/

namespace ModerationGateway.Domain.Punycode

/-! ### Numbers -/

/-- How many digits there are. -/
def base : Nat := 36

/-- The first number that stands for a character beyond ASCII. -/
def firstCode : Nat := 0x80

/-- The bias of the first number. -/
def firstBias : Nat := 72

/-- A digit below this value ends a number, at a place that is told by its distance. -/
def threshold (place bias : Nat) : Nat := min 26 (max 1 (place - bias))

/-- Scale down a distance, counting the places it takes. -/
def scale (delta places : Nat) : Nat :=
  if 455 < delta then scale (delta / 35) (places + base)
  else places + base * delta / (delta + 38)
  termination_by delta

/-- The bias after a number, for a text that now has so many characters. -/
def adapt (delta count : Nat) (isFirst : Bool) : Nat :=
  let delta := if isFirst then delta / 700 else delta / 2
  scale (delta + delta / count) 0

/-- The digit of a value: letters, then decimal digits. -/
def digit (value : Nat) : Char :=
  if value < 26 then Char.ofNat (value + 97) else Char.ofNat (value - 26 + 48)

/-- The value of a digit. -/
def digit? (c : Char) : Option Nat :=
  if c.isDigit then some (c.toNat - 48 + 26)
  else if c.isAlpha then some (c.toLower.toNat - 97)
  else none

theorem threshold_pos (place bias : Nat) : 1 ≤ threshold place bias := by
  simp only [threshold]; omega

/-- The digits of a number from some place on. -/
def writeNumber (bias place n : Nat) : List Char :=
  let t := threshold place bias
  if n < t then [digit n]
  else digit (t + (n - t) % (base - t)) :: writeNumber bias (place + base) ((n - t) / (base - t))
  termination_by n
  decreasing_by
    have := threshold_pos place bias
    have := Nat.div_le_self (n - threshold place bias) (base - threshold place bias)
    omega

/-- The number whose digits come from some place on, and what follows it. -/
def readNumber (bias place weight sum : Nat) :
    (cs : List Char) → Option (Nat × { rest : List Char // rest.length < cs.length })
  | [] => none
  | c :: cs =>
    match digit? c with
    | none => none
    | some d =>
      let sum := sum + d * weight
      let t := threshold place bias
      if d < t then some (sum, ⟨cs, by simp⟩)
      else if UInt32.size ≤ weight * (base - t) then none
      else
        match readNumber bias (place + base) (weight * (base - t)) sum cs with
        | none => none
        | some (n, ⟨rest, h⟩) => some (n, ⟨rest, by simp; omega⟩)

/-! ### Writing -/

/-- What has been written: the digits, the last one first, and where the next number starts. -/
structure Progress where
  digits : List Char
  /-- How far the next character is from the one before. -/
  delta : Nat
  bias : Nat
  /-- How many characters are written. -/
  written : Nat
  /-- No number is written yet. -/
  isFirst : Bool

namespace Progress

/-- Nothing is written but so many characters of ASCII. -/
def start (plain : Nat) : Progress := ⟨[], 0, firstBias, plain, true⟩

/-- Write the place of a character. -/
def write (p : Progress) : Progress where
  digits := (writeNumber p.bias base p.delta).reverse ++ p.digits
  delta := 0
  bias := adapt p.delta (p.written + 1) p.isFirst
  written := p.written + 1
  isFirst := false

/-- Pass a character on the way to those of a number, or write it. -/
def pass (code : Nat) (p : Progress) (c : Char) : Progress :=
  if c.toNat < code then { p with delta := p.delta + 1 }
  else if c.toNat = code then p.write
  else p

/-- Write all characters of a number, those of lower numbers being written; from which number on
they are not is given. -/
def advance (cs : List Char) (p : Progress × Nat) (code : Nat) : Progress × Nat :=
  let (p, next) := p
  let p := cs.foldl (pass code) { p with delta := p.delta + (code - next) * (p.written + 1) }
  ({ p with delta := p.delta + 1 }, code + 1)

end Progress

/-- The written form of a text. -/
def encode (cs : List Char) : List Char :=
  let plain := cs.filter fun c => c.toNat < firstCode
  let codes := ((cs.map Char.toNat).filter (firstCode ≤ ·)).mergeSort.eraseReps
  let (p, _) := codes.foldl (Progress.advance cs) (.start plain.length, firstCode)
  plain ++ (if plain.isEmpty then [] else ['-']) ++ p.digits.reverse

/-! ### Reading -/

/-- Put in the characters of the numbers that follow, after some were put in. -/
def insertAll (text : List Char) (code position bias : Nat) (isFirst : Bool) (cs : List Char) :
    Option (List Char) :=
  if cs.isEmpty then some text
  else
    match readNumber bias base 1 0 cs with
    | none => none
    | some (delta, ⟨rest, _⟩) =>
      let count := text.length + 1
      let code := code + (position + delta) / count
      let position := (position + delta) % count
      if code.isValidChar then
        insertAll (text.insertIdx position (Char.ofNat code)) code (position + 1)
          (adapt delta count isFirst) false rest
      else none
  termination_by cs.length

/-- What stands before the last hyphen, which is not the first character, and what follows it. -/
def cutLast (cs : List Char) : List Char × List Char :=
  let tail := (cs.reverse.takeWhile (· != '-')).reverse
  if tail.length + 1 < cs.length then (cs.take (cs.length - tail.length - 1), tail) else ([], cs)

/-- The text of a written form. -/
def decode? (cs : List Char) : Option (List Char) :=
  let (plain, numbers) := cutLast cs
  insertAll plain firstCode 0 firstBias true numbers

example : encode ['b', 'ü', 'c'] = ['b', 'c', '-', 'x', 'k', 'a'] := by cbv
example : decode? ['b', 'c', '-', 'x', 'k', 'a'] = some ['b', 'ü', 'c'] := by cbv
example : decode? ['-'] = none := by cbv

end ModerationGateway.Domain.Punycode
