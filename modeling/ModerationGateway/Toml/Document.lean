import ModerationGateway.Toml.Numeral
import ModerationGateway.Toml.Quoted
import ModerationGateway.Toml.Table

/-!
# Documents of TOML

The language is TOML 1.0. Values come out as JSON values, a moment as an object that holds its
text.

* `value`: a value;
* `Line`, `line`: what a line says;
* `parse?`: the table that a whole document is.
-/

namespace ModerationGateway.Toml

open Scan

/-- The value of a moment. -/
def momentValue (text : String) : Json := .object [("datetime", .string text)]

/-- A value that is no container. -/
def scalar : Scan Json := do
  match ← peek with
  | some '"' | some '\'' => return .string (← quoted)
  | some 't' => literal "true"; return .bool true
  | some 'f' => literal "false"; return .bool false
  | _ =>
    (return momentValue (← moment)) <|> (return .number (.double (← float))) <|>
      (return .number (.integer (← integer)))

/-- The table that a list of pairs on one line makes. -/
def inlineTable? (pairs : List (List String × Json)) : Option Json :=
  let add (entries : Entries) (pair : List String × Json) : Option Entries :=
    pair.1.getLast?.bind fun last => addPair? pair.1.dropLast last pair.2 .named entries
  (pairs.foldlM add []).map Entries.toJson

/-- The items of an array after its opening bracket. A comma may follow the last. -/
def arrayOf (item : Scan Json) : Scan Json := do
  let first ← attempt (do gap; let v ← item; gap; return v)
  let items ← match first with
    | none => pure []
    | some v => do
      let rest ← many (do literal ","; gap; let v ← item; gap; return v)
      discard <| attempt (literal ",")
      pure (v :: rest)
  gap
  literal "]"
  return .array items

/-- The pairs of a table on one line after its opening brace. -/
def inlineOf (item : Scan Json) : Scan Json := do
  let pair : Scan (List String × Json) := do
    let path ← key
    literal "="
    blanks
    let v ← item
    blanks
    return (path, v)
  let pairs ← (sepBy1 pair (literal ",") <|> pure [])
  blanks
  literal "\x7d"
  match inlineTable? pairs with
  | some v => return v
  | none => failure

/-- A value with containers at most so deep. -/
def valueWithin : Nat → Scan Json
  | 0 => scalar
  | depth + 1 =>
    (do literal "["; arrayOf (valueWithin depth)) <|>
      (do literal "\x7b"; inlineOf (valueWithin depth)) <|> scalar

/-- A value. -/
def value : Scan Json := valueWithin (depthLimit - 1)

/-- What a line says. -/
inductive Line where
  /-- Nothing. -/
  | blank
  /-- A value for a key. -/
  | pair (path : List String) (value : Json)
  /-- The header of a table. -/
  | header (path : List String)
  /-- The header of a table in an array. -/
  | element (path : List String)

/-- A line and its end. A value may run over several lines. -/
def line : Scan Line := do
  blanks
  match ← peek with
  | none | some '#' | some '\n' | some '\r' => lineEnd; return .blank
  | some '[' =>
    let said ←
      (do literal "[["; let path ← key; literal "]]"; return Line.element path) <|>
        (do literal "["; let path ← key; literal "]"; return Line.header path)
    lineEnd
    return said
  | _ =>
    let path ← key
    literal "="
    blanks
    let v ← value
    lineEnd
    return .pair path v

/-- The lines of a document. -/
def lines : Scan (List Line) := do
  let said ← many (do if (← peek).isNone then failure else line)
  atEnd
  return said

/-- A document up to some line: the path of the last header, and the entries so far. -/
structure Draft where
  path : List String
  entries : Entries

namespace Draft

/-- The table at the end of a path and a last key, opened. -/
def opened? (d : Draft) (path : List String)
    (f : List String → String → Entries → Option Entries) : Option Draft :=
  path.getLast?.bind fun last => (f path.dropLast last d.entries).map fun entries => ⟨path, entries⟩

/-- Take up a line. -/
def add? (d : Draft) : Line → Option Draft
  | .blank => some d
  | .header path => d.opened? path openTable?
  | .element path => d.opened? path openElement?
  | .pair path v =>
    path.getLast?.bind fun last =>
      (change? .passed d.path (addPair? path.dropLast last v) .named d.entries).map fun entries =>
        { d with entries }

end Draft

/-- The table that a document is. A mark of byte order may stand in front. -/
def parse? (cs : List Char) : Option Json := do
  let cs := match cs with
    | '\ufeff' :: rest => rest
    | _ => cs
  let (said, _) ← lines.run cs
  let draft ← said.foldlM Draft.add? ⟨[], []⟩
  return draft.entries.toJson

/-- The table of a text. -/
def ofText? (s : String) : Option Json := parse? s.toList

example : (ofText? "a.b = 1\n[[t]]\nx = [1, [2],]\n[t.u]\ny = \x7b z = 'w' \x7d # c").isSome := by
  decide +kernel
example : (ofText? "[a]\n[a]").isNone = true := by decide +kernel

end ModerationGateway.Toml
