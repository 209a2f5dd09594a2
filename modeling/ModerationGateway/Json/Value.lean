import ModerationGateway.Number.Binary64

/-!
# JSON values

* `Json.Number`: an integer kept exactly, or a double;
* `Json`: the values, an object being the list of its fields;
* `member?`, `first?`: one step into a value;
* `insertField`: a field put into a list of fields sorted by name, the latest value winning.
-/

namespace ModerationGateway

/-- A number: an integer of at most sixty-four bits, or a double. -/
inductive Json.Number where
  | integer (i : Int)
  | double (x : Binary64)
  deriving DecidableEq, Repr

/-- A JSON value. -/
inductive Json where
  | null
  | bool (b : Bool)
  | number (n : Json.Number)
  | string (s : String)
  | array (items : List Json)
  | object (fields : List (String × Json))

namespace Json

/-- The natural number as a value. -/
def ofNat (n : Nat) : Json := .number (.integer n)

/-- The value of an optional part, null where it is absent. -/
def ofOption : Option Json → Json
  | none => .null
  | some j => j

/-- The text of a string value. -/
def string? : Json → Option String
  | .string s => some s
  | _ => none

/-- The items of an array. -/
def array? : Json → Option (List Json)
  | .array items => some items
  | _ => none

/-- The fields of an object. -/
def object? : Json → Option (List (String × Json))
  | .object fields => some fields
  | _ => none

/-- The truth value of a boolean. -/
def bool? : Json → Option Bool
  | .bool b => some b
  | _ => none

/-- A non-negative integer below `UInt64.size`. -/
def natural? : Json → Option Nat
  | .number (.integer (.ofNat n)) => if n < UInt64.size then some n else none
  | _ => none

/-- The value of a field of an object. -/
def member? (j : Json) (name : String) : Option Json :=
  match j with
  | .object fields => fields.lookup name
  | _ => none

/-- The first entry: of an array its first item, of an object its field named `0`. -/
def first? (j : Json) : Option Json :=
  match j with
  | .array (item :: _) => some item
  | .object fields => fields.lookup "0"
  | _ => none

/-- Put a field into a list sorted by name. A field of that name is replaced. -/
def insertField (name : String) (value : Json) : List (String × Json) → List (String × Json)
  | [] => [(name, value)]
  | (other, old) :: rest =>
    if name = other then (name, value) :: rest
    else if name < other then (name, value) :: (other, old) :: rest
    else (other, old) :: insertField name value rest

/-- The object of some fields, sorted by name, the last of equal names winning. -/
def ofFields (fields : List (String × Json)) : Json :=
  .object (fields.foldl (fun acc f => insertField f.1 f.2 acc) [])

@[simp] theorem member?_object (fields : List (String × Json)) (name : String) :
    (Json.object fields).member? name = fields.lookup name := rfl

@[simp] theorem lookup_insertField (name : String) (value : Json) (fields : List (String × Json)) :
    (insertField name value fields).lookup name = some value := by
  induction fields with
  | nil => simp [insertField]
  | cons f rest ih =>
    obtain ⟨other, old⟩ := f
    simp only [insertField]
    split
    · simp
    · rename_i hne
      split
      · simp
      · have : (name == other) = false := by simpa using hne
        simp [List.lookup_cons, this, ih]

theorem lookup_insertField_of_ne {name other : String} (h : other ≠ name) (value : Json)
    (fields : List (String × Json)) :
    (insertField name value fields).lookup other = fields.lookup other := by
  have hb : (other == name) = false := by simpa using h
  induction fields with
  | nil => simp [insertField, List.lookup_cons, hb]
  | cons f rest ih =>
    obtain ⟨third, old⟩ := f
    simp only [insertField]
    split
    · rename_i heq
      subst heq
      simp [List.lookup_cons, hb]
    · split
      · simp [List.lookup_cons, hb]
      · simp only [List.lookup_cons]
        split <;> simp_all

end Json

end ModerationGateway
