import ModerationGateway.Json.Value

/-!
# Records in documents

A record is a fixed list of named fields. A document writes it as a table of its fields, or as a
list of their values in order. Unknown fields are ignored; a field that is absent has its default,
if it has one; a field that is present must be acceptable.

* `Dialect`: the two formats that documents come in, and where they differ;
* `Record`, `Json.record?`: the fields of a record that a document gives;
* `Record.required?`, `Record.default?`: one field;
* `text?`, `flag?`, `natural64?`, `natural16?`, `listOf?`, `maybe?`, `choice?`: acceptable values.
-/

namespace ModerationGateway

/-- The formats of documents. -/
inductive Dialect where
  | json
  | toml
  deriving DecidableEq, Repr

/-- The fields that a document gives for a record. -/
abbrev Record := List (String × Json)

namespace Json

/-- The fields of a record whose fields have the given names. Values beyond the last field are an
error in one dialect and ignored in the other. -/
def record? (dialect : Dialect) (names : List String) : Json → Option Record
  | .object fields => some fields
  | .array items =>
    if dialect = .json ∧ names.length < items.length then none else some (names.zip items)
  | _ => none

/-- A string. -/
def text? (j : Json) : Option String := j.string?

/-- A boolean. -/
def flag? (j : Json) : Option Bool := j.bool?

/-- A number of sixty-four bits. -/
def natural64? (j : Json) : Option UInt64 := j.natural?.map UInt64.ofNat

/-- A number of sixteen bits. -/
def natural16? (j : Json) : Option UInt16 :=
  j.natural?.bind fun n => if n < UInt16.size then some (UInt16.ofNat n) else none

/-- Every element has an image. -/
def mapAll {α β : Type} (f : α → Option β) : List α → Option (List β)
  | [] => some []
  | a :: as =>
    match f a, mapAll f as with
    | some b, some bs => some (b :: bs)
    | _, _ => none

/-- A list of acceptable values. -/
def listOf? {α : Type} (f : Json → Option α) (j : Json) : Option (List α) :=
  j.array?.bind (mapAll f)

/-- An acceptable value, or null. -/
def maybe? {α : Type} (f : Json → Option α) : Json → Option (Option α)
  | .null => some none
  | j => (f j).map some

/-- What stands beside a word that is written as the only field of a table. -/
def isUnit (dialect : Dialect) (j : Json) : Bool :=
  match dialect, j with
  | .json, .null => true
  | .toml, .object [] => true
  | .toml, .array [] => true
  | _, _ => false

/-- One of some words, as a string or as the only field of a table. -/
def choice? {α : Type} (dialect : Dialect) (words : List (String × α)) : Json → Option α
  | .string s => words.lookup s
  | .object [(s, unit)] => if isUnit dialect unit then words.lookup s else none
  | _ => none

end Json

namespace Record

variable {α : Type}

/-- A field that must be there. -/
def required? (r : Record) (name : String) (f : Json → Option α) : Option α :=
  (r.lookup name).bind f

/-- A field with a default. -/
def default? (r : Record) (name : String) (f : Json → Option α) (default : α) : Option α :=
  match r.lookup name with
  | none => some default
  | some j => f j

theorem required?_of_lookup {r : Record} {name : String} {j : Json} (h : r.lookup name = some j)
    (f : Json → Option α) : r.required? name f = f j := by
  simp [required?, h]

theorem default?_of_lookup {r : Record} {name : String} {j : Json} (h : r.lookup name = some j)
    (f : Json → Option α) (default : α) : r.default? name f default = f j := by
  simp [default?, h]

end Record

end ModerationGateway
