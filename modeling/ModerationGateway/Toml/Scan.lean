/-!
# Scanning text

A reader takes something off the front of a text and leaves the rest, or refuses.

* `Scan`: readers, with failure and alternatives;
* `literal`, `oneOf`, `takeWhile`: the leaves;
* `attempt`, `piecesUntil`, `sepBy`: the ways to combine them;
* `blanks`, `lineBreak`, `comment`, `gap`: what stands between the parts of a document.
-/

namespace ModerationGateway.Toml

/-- A reader. -/
abbrev Scan (α : Type) := StateT (List Char) Option α

namespace Scan

variable {α : Type}

/-- The next character. -/
def next : Scan Char
  | [] => none
  | c :: rest => some (c, rest)

/-- The next character, left in place. -/
def peek : Scan (Option Char) := fun cs => some (cs.head?, cs)

/-- A character of a class. -/
def oneOf (p : Char → Bool) : Scan Char := do
  let c ← next
  if p c then return c else failure

/-- A text as it stands. -/
def literal (s : String) : Scan Unit := fun cs =>
  if s.toList.isPrefixOf cs then some ((), cs.drop s.toList.length) else none

/-- The longest run of characters of a class. -/
def takeWhile (p : Char → Bool) : Scan (List Char) := fun cs =>
  some (cs.takeWhile p, cs.dropWhile p)

/-- A run that is not empty. -/
def takeWhile1 (p : Char → Bool) : Scan (List Char) := do
  let run ← takeWhile p
  if run.isEmpty then failure else return run

/-- So many characters of a class. -/
def exactly (p : Char → Bool) : Nat → Scan (List Char)
  | 0 => return []
  | n + 1 => do return (← oneOf p) :: (← exactly p n)

/-- What a reader finds, if it finds something. -/
def attempt (r : Scan α) : Scan (Option α) := some <$> r <|> pure none

/-- The text that a reader goes over. -/
def consumed (r : Scan α) : Scan (List Char) := fun cs =>
  (r cs).map fun (_, rest) => (cs.take (cs.length - rest.length), rest)

/-- The text is at its end. -/
def atEnd : Scan Unit
  | [] => some ((), [])
  | _ => none

/-- Pieces up to the first place where `close` succeeds; what `close` finds comes last. -/
def piecesUntil (close piece : Scan (List Char)) : Scan (List Char) := fun cs =>
  go (cs.length + 1) cs
where
  /-- At most so many pieces. -/
  go : Nat → Scan (List Char)
    | 0 => failure
    | fuel + 1 => close <|> do return (← piece) ++ (← go fuel)

/-- As many as there are. The bound is the length of the text. -/
def many (r : Scan α) : Scan (List α) := fun cs => go (cs.length + 1) cs
where
  /-- At most so many. -/
  go : Nat → Scan (List α)
    | 0 => return []
    | fuel + 1 => do
      match ← attempt r with
      | none => return []
      | some a => return a :: (← go fuel)

/-- One or more, with a separator between them. -/
def sepBy1 (r : Scan α) (separator : Scan Unit) : Scan (List α) := do
  return (← r) :: (← many (do separator; r))

end Scan

open Scan

/-- A character that may stand in a comment or, apart from quotes and the backslash, in a string:
no control character but the tab. -/
def isPlain (c : Char) : Bool := c == '\t' || (0x20 ≤ c.toNat && c != '\x7f')

/-- Space or tab. -/
def isBlank (c : Char) : Bool := c == ' ' || c == '\t'

/-- Spaces and tabs. -/
def blanks : Scan Unit := do discard <| takeWhile isBlank

/-- The end of a line. -/
def lineBreak : Scan Unit := literal "\n" <|> literal "\r\n"

/-- A comment, up to the end of its line. -/
def comment : Scan Unit := do
  literal "#"
  discard <| takeWhile isPlain

/-- What may follow on a line, and its end. -/
def lineEnd : Scan Unit := do
  blanks
  discard <| attempt comment
  lineBreak <|> atEnd

/-- Blanks, line breaks and comments. -/
def gap : Scan Unit := do
  blanks
  discard <| many (do discard <| attempt comment; lineBreak; blanks)

example : (lineEnd.run " # c\nx".toList) = some ((), ['x']) := by decide
example : (gap.run " # c\n \r\n x".toList) = some ((), ['x']) := by decide

end ModerationGateway.Toml
