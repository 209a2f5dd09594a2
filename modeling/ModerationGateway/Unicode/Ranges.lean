import ModerationGateway.Number.Digits
import ModerationGateway.Text.Split

/-!
# Ranges of characters

A class of characters is written as hexadecimal numbers with blanks between them: `41-5A` for a
range with both its ends, `5F` for one character.

* `Ranges`, `Ranges.ofLines`: such a class, and the class of some lines;
* `Ranges.has`: the characters of a class.
-/

namespace ModerationGateway.Unicode

/-- The first and the last numbers of ranges. -/
abbrev Ranges := List (Nat × Nat)

/-- The words of some lines. -/
def wordsOf (lines : List String) : List (List Char) :=
  lines.flatMap fun line => Text.words line.toList

/-- A number in hexadecimal digits. -/
def numberOf (cs : List Char) : Nat := ofDigits 16 cs

namespace Ranges

/-- A range as it is written. -/
def rangeOf (word : List Char) : Nat × Nat :=
  match Text.splitAt (· == '-') word with
  | [first, last] => (numberOf first, numberOf last)
  | _ => (numberOf word, numberOf word)

/-- The ranges of some lines. -/
def ofLines (lines : List String) : Ranges := (wordsOf lines).map rangeOf

/-- A character is in one of the ranges. -/
def has (ranges : Ranges) (c : Char) : Bool :=
  ranges.any fun (first, last) => first ≤ c.toNat && c.toNat ≤ last

@[simp] theorem has_nil (c : Char) : has [] c = false := rfl

@[simp] theorem has_cons (range : Nat × Nat) (ranges : Ranges) (c : Char) :
    has (range :: ranges) c =
      ((range.1 ≤ c.toNat && c.toNat ≤ range.2) || has ranges c) := rfl

end Ranges

end ModerationGateway.Unicode
