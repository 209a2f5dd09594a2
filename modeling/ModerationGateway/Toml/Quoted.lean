import ModerationGateway.Json.Reader
import ModerationGateway.Toml.Scan

/-!
# Strings and keys of TOML

* `basic`, `literalQuoted`: strings on one line, with and without escapes;
* `basicLines`, `literalLines`: strings over several lines. A line break just after the opening
  quotes does not count, and every line break inside is a line feed;
* `quoted`: any of the four;
* `key`: a path of keys.
-/

namespace ModerationGateway.Toml

open Scan

/-- The character that a letter after a backslash stands for. -/
def ofLetter? (c : Char) : Option Char :=
  if c = '/' then none else Json.ofEscape? c

/-- A character by its number in so many hexadecimal digits. -/
def numbered (digits : Nat) : Scan Char := do
  let n := ofDigits 16 (← exactly isHexDigit digits)
  if n.isValidChar then return Char.ofNat n else failure

/-- An escaped character. -/
def escaped : Scan (List Char) := do
  literal "\\"
  match ← next with
  | 'u' => return [← numbered 4]
  | 'U' => return [← numbered 8]
  | c =>
    match ofLetter? c with
    | some ch => return [ch]
    | none => failure

/-- A plain character but for those of a list. -/
def plainBut (excluded : List Char) : Scan (List Char) := do
  return [← oneOf fun c => isPlain c && !excluded.contains c]

/-- The quote that ends a string on one line. -/
def closing (quote : String) : Scan (List Char) := do
  literal quote
  return []

/-- The quotes that end a string of several lines. Up to two more belong to the string. -/
def closingLines (quote : Char) : Scan (List Char) :=
  let quotes (n : Nat) : Scan Unit := literal (String.ofList (List.replicate n quote))
  (do quotes 5; return [quote, quote]) <|> (do quotes 4; return [quote]) <|>
    (do quotes 3; return [])

/-- A line break as a character. -/
def brokenLine : Scan (List Char) := do
  lineBreak
  return ['\n']

/-- A backslash at the end of a line joins the line to the next text. -/
def joinedLine : Scan (List Char) := do
  literal "\\"
  blanks
  lineBreak
  discard <| many (do discard (oneOf isBlank) <|> lineBreak)
  return []

/-- A string on one line with escapes. -/
def basic : Scan (List Char) := do
  literal "\""
  piecesUntil (closing "\"") (plainBut ['"', '\\'] <|> escaped)

/-- A string on one line without escapes. -/
def literalQuoted : Scan (List Char) := do
  literal "'"
  piecesUntil (closing "'") (plainBut ['\''])

/-- A string of several lines with escapes. -/
def basicLines : Scan (List Char) := do
  literal "\"\"\""
  discard <| attempt lineBreak
  piecesUntil (closingLines '"') (plainBut ['\\'] <|> brokenLine <|> joinedLine <|> escaped)

/-- A string of several lines without escapes. -/
def literalLines : Scan (List Char) := do
  literal "'''"
  discard <| attempt lineBreak
  piecesUntil (closingLines '\'') (plainBut [] <|> brokenLine)

/-- A string. -/
def quoted : Scan String :=
  String.ofList <$> (basicLines <|> literalLines <|> basic <|> literalQuoted)

/-- A character of a key without quotes. -/
def isKeyChar (c : Char) : Bool := c.isAlphanum || c == '_' || c == '-'

/-- A key. -/
def keyPart : Scan String :=
  String.ofList <$> (basic <|> literalQuoted <|> takeWhile1 isKeyChar)

/-- How deep keys and values may be nested: less than this. -/
def depthLimit : Nat := 80

/-- A path of keys with points between them. -/
def key : Scan (List String) := do
  let path ← sepBy1 (do blanks; let k ← keyPart; blanks; return k) (literal ".")
  if path.length < depthLimit then return path else failure

example : (quoted.run "\"a\\u0041\" x".toList).map (·.1) = some "aA" := by decide +kernel
example : (quoted.run "'''\na\r\nb''''".toList).map (·.1) = some "a\nb'" := by decide +kernel
example : (key.run "a . \"b.c\"=".toList).map (·.1) = some ["a", "b.c"] := by decide +kernel

end ModerationGateway.Toml
