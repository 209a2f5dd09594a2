import ModerationGateway.Association
import ModerationGateway.Json.Value

/-!
# Tables of TOML

A document builds up one table. A table can be named by a header only once, but it may come into
being before that, because a header or a key below it is written first.

* `Origin`, `Node`, `Entries`: tables under construction;
* `change?`: change the table at the end of a path, making those on the way;
* `addPair?`, `openTable?`, `openElement?`: what the lines of a document do;
* `Entries.toJson`: the finished table.
-/

namespace ModerationGateway.Toml

/-- How a table came into being: named by a header of its own, on the way to the table of another
header, or on the way of a key with points. -/
inductive Origin where
  | named
  | passed
  | dotted
  deriving DecidableEq, Repr

/-- What a key stands for: a value that is finished, a table, or the tables of an array. -/
inductive Node where
  | leaf (value : Json)
  | table (origin : Origin) (entries : List (String × Node))
  | tables (elements : List (List (String × Node)))

/-- The entries of a table. -/
abbrev Entries := Association Node

/-- Change the table at the end of a path. Tables that are missing on the way come into being; of
an array of tables the last is meant. A key with points does not go through a table that has a
header of its own. -/
def change? (via : Origin) :
    List String → (Origin → Entries → Option Entries) → Origin → Entries → Option Entries
  | [], f, origin, entries => f origin entries
  | key :: path, f, _, entries =>
    match entries.lookup key with
    | none => (change? via path f via []).map fun inner => put key (.table via inner) entries
    | some (.leaf _) => none
    | some (.table origin inner) =>
      if via = .dotted ∧ origin = .named then none
      else (change? via path f origin inner).map fun inner => put key (.table origin inner) entries
    | some (.tables elements) =>
      match elements.getLast? with
      | none => none
      | some inner =>
        (change? via path f .named inner).map fun inner =>
          put key (.tables (elements.dropLast ++ [inner])) entries

/-- Add a value under a path of keys and a last key. Keys with points stay among tables of such
keys, and other keys away from them; no key is given twice. -/
def addPair? (path : List String) (key : String) (value : Json) :
    Origin → Entries → Option Entries :=
  change? .dotted path fun origin entries =>
    if (origin == .dotted) == path.isEmpty ∨ (entries.lookup key).isSome then none
    else some (put key (.leaf value) entries)

/-- Open the table of a header. -/
def openTable? (path : List String) (key : String) : Entries → Option Entries :=
  change? .passed path (fun _ entries =>
    match entries.lookup key with
    | none => some (put key (.table .named []) entries)
    | some (.table .passed inner) => some (put key (.table .named inner) entries)
    | _ => none) .named

/-- Open a new table in the array of a header. -/
def openElement? (path : List String) (key : String) : Entries → Option Entries :=
  change? .passed path (fun _ entries =>
    match entries.lookup key with
    | none => some (put key (.tables [[]]) entries)
    | some (.tables elements) => some (put key (.tables (elements ++ [[]])) entries)
    | _ => none) .named

mutual

/-- The finished value. -/
def Node.toJson : Node → Json
  | .leaf value => value
  | .table _ entries => .object (fieldsOf entries)
  | .tables elements => .array (itemsOf elements)

/-- The fields of a finished table. -/
def fieldsOf : List (String × Node) → List (String × Json)
  | [] => []
  | (key, node) :: rest => (key, node.toJson) :: fieldsOf rest

/-- The finished tables of an array. -/
def itemsOf : List (List (String × Node)) → List Json
  | [] => []
  | entries :: rest => .object (fieldsOf entries) :: itemsOf rest

end

/-- The finished table. -/
def Entries.toJson (entries : Entries) : Json := .object (fieldsOf entries)

end ModerationGateway.Toml
