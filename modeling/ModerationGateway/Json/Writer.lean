import ModerationGateway.Json.Value
import ModerationGateway.Number.Digits
import ModerationGateway.Number.Shortest
import ModerationGateway.Text.Utf8

/-!
# Writing JSON

Strings escape the quote, the backslash and the control characters and nothing else, the latter by
a short escape where there is one. Fields come in the order of the value.

* `quoted`: the text of a string;
* `render`: the text of a value without white space;
* `pretty`: the text of a value with one item a line, two blanks deeper inside each container.
-/

namespace ModerationGateway.Json

/-- The text of a character inside a string. -/
def escape (c : Char) : List Char :=
  if c = '"' then ['\\', '"']
  else if c = '\\' then ['\\', '\\']
  else if c.toNat < 0x20 then
    if c = '\x08' then ['\\', 'b']
    else if c = '\t' then ['\\', 't']
    else if c = '\n' then ['\\', 'n']
    else if c = '\x0c' then ['\\', 'f']
    else if c = '\r' then ['\\', 'r']
    else ['\\', 'u', '0', '0', hexDigit (c.toNat / 16), hexDigit c.toNat]
  else [c]

/-- A string with its quotes. -/
def quoted (s : String) : List Char := '"' :: s.toList.flatMap escape ++ ['"']

/-- The text of a number. -/
def Number.render : Number → List Char
  | .integer i => signedDecimal i
  | .double x => x.text

mutual

/-- The text of a value, without white space. -/
def render : Json → List Char
  | .null => ['n', 'u', 'l', 'l']
  | .bool true => ['t', 'r', 'u', 'e']
  | .bool false => ['f', 'a', 'l', 's', 'e']
  | .number n => n.render
  | .string s => quoted s
  | .array items => '[' :: renderItems items ++ [']']
  | .object fields => '\x7b' :: renderFields fields ++ ['\x7d']

/-- The items of an array, commas between them. -/
def renderItems : List Json → List Char
  | [] => []
  | [item] => render item
  | item :: items => render item ++ ',' :: renderItems items

/-- The fields of an object, commas between them. -/
def renderFields : List (String × Json) → List Char
  | [] => []
  | [(name, value)] => quoted name ++ ':' :: render value
  | (name, value) :: fields => quoted name ++ ':' :: render value ++ ',' :: renderFields fields

end

/-- A new line with two blanks for each container around it. -/
def newLine (level : Nat) : List Char := '\n' :: List.replicate (2 * level) ' '

mutual

/-- The text of a value with one item a line. -/
def prettyAt (level : Nat) : Json → List Char
  | .array [] => ['[', ']']
  | .array items => '[' :: prettyItems (level + 1) items ++ newLine level ++ [']']
  | .object [] => ['\x7b', '\x7d']
  | .object fields => '\x7b' :: prettyFields (level + 1) fields ++ newLine level ++ ['\x7d']
  | value => render value

/-- The items of an array, each on a line of its own. -/
def prettyItems (level : Nat) : List Json → List Char
  | [] => []
  | [item] => newLine level ++ prettyAt level item
  | item :: items => newLine level ++ prettyAt level item ++ ',' :: prettyItems level items

/-- The fields of an object, each on a line of its own. -/
def prettyFields (level : Nat) : List (String × Json) → List Char
  | [] => []
  | [(name, value)] => newLine level ++ quoted name ++ ':' :: ' ' :: prettyAt level value
  | (name, value) :: fields =>
    newLine level ++ quoted name ++ ':' :: ' ' :: prettyAt level value ++
      ',' :: prettyFields level fields

end

/-- The text of a value with one item a line. -/
def pretty (j : Json) : String := String.ofList (prettyAt 0 j)

/-- The text of a value without white space. -/
def text (j : Json) : String := String.ofList j.render

/-- The bytes of the text of a value. -/
def bytes (j : Json) : Bytes := Utf8.encode j.render

end ModerationGateway.Json
