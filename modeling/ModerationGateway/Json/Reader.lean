import ModerationGateway.Json.Numeral
import ModerationGateway.Number.Digits
import ModerationGateway.Text.Utf8

/-!
# Reading JSON

The grammar is RFC 8259 without extensions: white space is space, tab, carriage return and line
feed, strings hold no raw control character, and a surrogate is written only as half of a pair.
Of equal names in an object the last one counts. Containers are nested at most 127 deep.

* `readString`: the rest of a string after its opening quote;
* `readValue`: a value at the front of a text;
* `parse?`, `ofText?`, `ofBytes?`: the one value that a whole text is.
-/

namespace ModerationGateway.Json

/-- White space between tokens. -/
def isSpace (c : Char) : Bool := c == ' ' || c == '\t' || c == '\n' || c == '\r'

/-- Drop the white space in front. -/
def skipSpaces (cs : List Char) : List Char := cs.dropWhile isSpace

/-- The number written by four hexadecimal digits. -/
def hex4? (a b c d : Char) : Option Nat := do
  some (((← hexDigit? a) * 16 + (← hexDigit? b)) * 256 + (← hexDigit? c) * 16 + (← hexDigit? d))

/-- The character of a pair of surrogates. -/
def ofSurrogates? (high low : Nat) : Option Char :=
  if 0xD800 ≤ high ∧ high < 0xDC00 ∧ 0xDC00 ≤ low ∧ low < 0xE000 then
    some (Char.ofNat (0x10000 + (high - 0xD800) * 0x400 + (low - 0xDC00)))
  else none

/-- A number that is no surrogate names a character by itself. -/
def ofUnit? (n : Nat) : Option Char :=
  if 0xD800 ≤ n ∧ n < 0xE000 then none else some (Char.ofNat n)

/-- The character that a short escape stands for. -/
def ofEscape? (c : Char) : Option Char :=
  if c = '"' ∨ c = '\\' ∨ c = '/' then some c
  else if c = 'b' then some '\x08'
  else if c = 'f' then some '\x0c'
  else if c = 'n' then some '\n'
  else if c = 'r' then some '\r'
  else if c = 't' then some '\t'
  else none

/-- Put a character in front of what was read after it. -/
def prepend (c : Char) (r : Option (List Char × List Char)) : Option (List Char × List Char) :=
  r.map fun (cs, rest) => (c :: cs, rest)

/-- Read a string after its opening quote: its characters and what follows the closing quote. -/
def readString : List Char → Option (List Char × List Char)
  | [] => none
  | '"' :: rest => some ([], rest)
  | '\\' :: 'u' :: a :: b :: c :: d :: rest =>
    match hex4? a b c d with
    | none => none
    | some n =>
      match ofUnit? n with
      | some ch => prepend ch (readString rest)
      | none =>
        match rest with
        | '\\' :: 'u' :: e :: f :: g :: h :: rest =>
          match (hex4? e f g h).bind (ofSurrogates? n) with
          | some ch => prepend ch (readString rest)
          | none => none
        | _ => none
  | '\\' :: c :: rest =>
    match ofEscape? c with
    | some ch => prepend ch (readString rest)
    | none => none
  | c :: rest => if c = '\\' ∨ c.toNat < 0x20 then none else prepend c (readString rest)

mutual

/-- Read a value at the front of a text. The second argument counts the containers that may still
be opened; the first bounds the recursion. -/
def readValue : Nat → Nat → List Char → Option (Json × List Char)
  | 0, _, _ => none
  | fuel + 1, depth, cs =>
    match skipSpaces cs with
    | 'n' :: 'u' :: 'l' :: 'l' :: rest => some (.null, rest)
    | 't' :: 'r' :: 'u' :: 'e' :: rest => some (.bool true, rest)
    | 'f' :: 'a' :: 'l' :: 's' :: 'e' :: rest => some (.bool false, rest)
    | '"' :: rest => (readString rest).map fun (s, rest) => (.string (String.ofList s), rest)
    | '[' :: rest =>
      match depth with
      | 0 => none
      | depth + 1 =>
        match skipSpaces rest with
        | ']' :: rest => some (.array [], rest)
        | rest => (readItems fuel depth rest).map fun (items, rest) => (.array items, rest)
    | '\x7b' :: rest =>
      match depth with
      | 0 => none
      | depth + 1 =>
        match skipSpaces rest with
        | '\x7d' :: rest => some (.object [], rest)
        | rest => (readFields fuel depth rest).map fun (fields, rest) => (ofFields fields, rest)
    | rest => (readNumber rest).map fun (n, rest) => (.number n, rest)

/-- Read the items of an array up to its closing bracket. -/
def readItems : Nat → Nat → List Char → Option (List Json × List Char)
  | 0, _, _ => none
  | fuel + 1, depth, cs =>
    match readValue fuel depth cs with
    | none => none
    | some (item, rest) =>
      match skipSpaces rest with
      | ',' :: rest => (readItems fuel depth rest).map fun (items, rest) => (item :: items, rest)
      | ']' :: rest => some ([item], rest)
      | _ => none

/-- Read the fields of an object up to its closing brace. -/
def readFields : Nat → Nat → List Char → Option (List (String × Json) × List Char)
  | 0, _, _ => none
  | fuel + 1, depth, cs =>
    match skipSpaces cs with
    | '"' :: rest =>
      match readString rest with
      | none => none
      | some (name, rest) =>
        match skipSpaces rest with
        | ':' :: rest =>
          match readValue fuel depth rest with
          | none => none
          | some (value, rest) =>
            let field := (String.ofList name, value)
            match skipSpaces rest with
            | ',' :: rest =>
              (readFields fuel depth rest).map fun (fields, rest) => (field :: fields, rest)
            | '\x7d' :: rest => some ([field], rest)
            | _ => none
        | _ => none
    | _ => none

end

/-- How deep containers may be nested. -/
def maxDepth : Nat := 127

/-- The value that a text is, white space around it allowed. Each step down the recursion but
every second one reads a character, so twice the length bounds it. -/
def parse? (cs : List Char) : Option Json :=
  match readValue (2 * cs.length + 2) maxDepth cs with
  | some (value, rest) => if (skipSpaces rest).isEmpty then some value else none
  | none => none

/-- The value of a string. -/
def ofText? (s : String) : Option Json := parse? s.toList

/-- The value of a byte string, which must be well-formed UTF-8. -/
def ofBytes? (bs : Bytes) : Option Json := (Utf8.decode? bs).bind parse?

end ModerationGateway.Json
