/-!
# Blank characters

White space is the Unicode property `White_Space`; it decides which lines are empty and what
trimming removes.

* `isBlank`: the property, by its ranges;
* `trimStart`, `trimEnd`, `trim`: removal at the two ends, on characters and on strings;
* `lowerAscii`: the case map of the twenty-six Latin letters, the only one header names know.
-/

namespace ModerationGateway.Text

/-- The characters of the property `White_Space`. -/
def isBlank (c : Char) : Bool :=
  let n := c.toNat
  (9 ≤ n && n ≤ 13) || n == 0x20 || n == 0x85 || n == 0xA0 || n == 0x1680 ||
    (0x2000 ≤ n && n ≤ 0x200A) || n == 0x2028 || n == 0x2029 || n == 0x202F ||
    n == 0x205F || n == 0x3000

/-- Drop the blanks in front. -/
def trimStart (cs : List Char) : List Char := cs.dropWhile isBlank

/-- Drop the blanks at the end. -/
def trimEnd (cs : List Char) : List Char := (cs.reverse.dropWhile isBlank).reverse

/-- Drop the blanks at both ends. -/
def trim (cs : List Char) : List Char := trimEnd (trimStart cs)

/-- Nothing is left after trimming. -/
def isBlankText (cs : List Char) : Bool := cs.all isBlank

/-- A string without the blanks at its ends. -/
def trimmed (s : String) : String := String.ofList (trim s.toList)

/-- The lower-case form of an ASCII letter; every other character stays. -/
def lowerAscii (s : String) : String := s.map Char.toLower

@[simp] theorem trimStart_nil : trimStart [] = [] := rfl
@[simp] theorem trimEnd_nil : trimEnd [] = [] := rfl
@[simp] theorem trim_nil : trim [] = [] := rfl

theorem isBlankText_iff (cs : List Char) : isBlankText cs = true ↔ trimStart cs = [] := by
  induction cs with
  | nil => simp [isBlankText]
  | cons c cs ih =>
    by_cases h : isBlank c = true
    · simp_all [isBlankText, trimStart]
    · simp [isBlankText, trimStart, h]

end ModerationGateway.Text
