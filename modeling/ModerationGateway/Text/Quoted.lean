import ModerationGateway.Text.Unseen

/-!
# Strings as they are shown to an operator

A shown string stands in quotes. The quote, the backslash and what cannot be seen are escaped.

* `escapeShown`, `shown`: one character, and a whole string;
* `shownList`: a list of strings.
-/

namespace ModerationGateway.Text

/-- The lower-case hexadecimal digits of a number. -/
def hexDigits (n : Nat) : List Char := Nat.toDigits 16 n

/-- A character of a shown string. -/
def escapeShown (c : Char) : List Char :=
  if c = '"' ∨ c = '\\' then ['\\', c]
  else if c = '\x00' then ['\\', '0']
  else if c = '\t' then ['\\', 't']
  else if c = '\n' then ['\\', 'n']
  else if c = '\r' then ['\\', 'r']
  else if isUnseen c || isCombining c then
    '\\' :: 'u' :: '\x7b' :: hexDigits c.toNat ++ ['\x7d']
  else [c]

/-- A string as it is shown. -/
def shown (s : String) : String :=
  String.ofList ('"' :: s.toList.flatMap escapeShown ++ ['"'])

/-- A list of strings as it is shown. -/
def shownList (ss : List String) : String := "[" ++ ", ".intercalate (ss.map shown) ++ "]"

end ModerationGateway.Text
