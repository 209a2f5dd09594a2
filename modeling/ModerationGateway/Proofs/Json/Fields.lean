import ModerationGateway.Association
import ModerationGateway.Json.Record
import ModerationGateway.Proofs.Json.Documents
import ModerationGateway.Proofs.Text.Utf8

/-!
# Records, written and read

What is written for a record has its fields in the order of the writer, and what is read from its
text has them sorted. A reader that goes by names finds the same in both.

* `sortedFields`, `lookup_sortedFields`: the fields of a normal form, which are found as before;
* `IsReadAs`: a value is read as a datum, as it is and in its normal form;
* `isReadAs_text`, `isReadAs_natural64`, `isReadAs_maybe`, `isReadAs_list`, …: the parts of records;
* `Holds`, `isReadAs_object`: whole records;
* `isPlain_ofNat`, `isPlain_ofOption`, `arePlain_map`: parts without doubles;
* `bind_ofBytes?_bytes`: what is read from a plain value is read from its bytes;
* `IsLossless`, `IsKept`: what is written is read again, and nothing is lost when a document is
  written anew, as a value and as bytes.
-/

namespace ModerationGateway

namespace Json

variable {α : Type} {fields : List (String × Json)}

/-! ### Sorted fields -/

/-- The fields of an object in its normal form. -/
def sortedFields (fields : List (String × Json)) : List (String × Json) :=
  (normalFields fields).foldl (fun acc f => insertField f.1 f.2 acc) []

theorem normal_object (fields : List (String × Json)) :
    (Json.object fields).normal = .object (sortedFields fields) := by
  rw [normal]
  rfl

theorem map_fst_normalFields (fields : List (String × Json)) :
    (normalFields fields).map Prod.fst = fields.map Prod.fst := by
  induction fields with
  | nil => rfl
  | cons field fields ih => rw [normalFields, List.map_cons, List.map_cons, ih]

theorem lookup_normalFields (fields : List (String × Json)) (name : String) :
    (normalFields fields).lookup name = (fields.lookup name).map normal := by
  induction fields with
  | nil => rfl
  | cons field fields ih =>
    obtain ⟨other, value⟩ := field
    simp only [normalFields, List.lookup_cons, ih]
    split <;> rfl

/-- Fields with distinct names are found among those that they were put into. -/
theorem lookup_foldl_insertField (h : (fields.map Prod.fst).Nodup) (acc : List (String × Json))
    (name : String) :
    (fields.foldl (fun acc f => insertField f.1 f.2 acc) acc).lookup name =
      (fields.lookup name).or (acc.lookup name) := by
  induction fields generalizing acc with
  | nil => rfl
  | cons field fields ih =>
    obtain ⟨other, value⟩ := field
    obtain ⟨hnew, hrest⟩ := List.nodup_cons.1 h
    rw [List.foldl_cons, ih hrest, List.lookup_cons]
    by_cases heq : name = other
    · subst heq
      rw [lookup_eq_none_of_not_mem hnew, lookup_insertField, Option.none_or, beq_self_eq_true,
        Option.some_or]
    · have hb : (name == other) = false := by simpa using heq
      rw [lookup_insertField_of_ne heq, hb]

theorem lookup_sortedFields (h : (fields.map Prod.fst).Nodup) (name : String) :
    (sortedFields fields).lookup name = (fields.lookup name).map normal := by
  rw [sortedFields, lookup_foldl_insertField (map_fst_normalFields fields ▸ h),
    lookup_normalFields, List.lookup_nil, Option.or_none]

/-! ### Parts -/

/-- A value is read as a datum, as it is and in its normal form. -/
structure IsReadAs (read? : Json → Option α) (j : Json) (a : α) : Prop where
  written : read? j = some a
  sorted : read? j.normal = some a

theorem isReadAs_text (s : String) : IsReadAs text? (.string s) s := ⟨rfl, rfl⟩

theorem isReadAs_flag (b : Bool) : IsReadAs flag? (.bool b) b := ⟨rfl, rfl⟩

theorem natural?_ofNat {n : Nat} (h : n < UInt64.size) : (ofNat n).natural? = some n := if_pos h

theorem isReadAs_natural64 (n : UInt64) : IsReadAs natural64? (.ofNat n.toNat) n := by
  have hread : natural64? (.ofNat n.toNat) = some n := by
    rw [natural64?, natural?_ofNat n.toNat_lt, Option.map_some, UInt64.ofNat_toNat]
  exact ⟨hread, hread⟩

theorem isReadAs_natural16 (n : UInt16) : IsReadAs natural16? (.ofNat n.toNat) n := by
  have hsize : n.toNat < UInt64.size := Nat.lt_trans n.toNat_lt (by decide)
  have hread : natural16? (.ofNat n.toNat) = some n := by
    rw [natural16?, natural?_ofNat hsize, Option.bind_some, if_pos n.toNat_lt, UInt16.ofNat_toNat]
  exact ⟨hread, hread⟩

theorem isReadAs_choice {dialect : Dialect} {words : List (String × α)} {s : String} {a : α}
    (h : words.lookup s = some a) : IsReadAs (choice? dialect words) (.string s) a := ⟨h, h⟩

theorem maybe?_of_ne_null {j : Json} (h : j ≠ .null) (read? : Json → Option α) :
    maybe? read? j = (read? j).map some := by
  cases j with
  | null => exact absurd rfl h
  | _ => rfl

theorem normal_ne_null {j : Json} (h : j ≠ .null) : j.normal ≠ .null := by
  cases j with
  | null => exact absurd rfl h
  | _ => simp [normal, ofFields]

/-- An optional part is told from an absent one, as long as it is not written as null. -/
theorem isReadAs_maybe {read? : Json → Option α} {write : α → Json}
    (h : ∀ a, IsReadAs read? (write a) a) (hnull : ∀ a, write a ≠ .null) (o : Option α) :
    IsReadAs (maybe? read?) (.ofOption (o.map write)) o := by
  cases o with
  | none => exact ⟨rfl, rfl⟩
  | some a =>
    constructor
    · show maybe? read? (write a) = some (some a)
      rw [maybe?_of_ne_null (hnull a), (h a).written, Option.map_some]
    · show maybe? read? (write a).normal = some (some a)
      rw [maybe?_of_ne_null (normal_ne_null (hnull a)), (h a).sorted, Option.map_some]

theorem normalItems_eq_map (items : List Json) : normalItems items = items.map normal := by
  induction items with
  | nil => rfl
  | cons item items ih => rw [normalItems, List.map_cons, ih]

theorem mapAll_map {β : Type} {f : β → Option α} {g : α → β} (h : ∀ a, f (g a) = some a)
    (as : List α) : mapAll f (as.map g) = some as := by
  induction as with
  | nil => rfl
  | cons a as ih => rw [List.map_cons, mapAll, h a, ih]

theorem isReadAs_list {read? : Json → Option α} {write : α → Json}
    (h : ∀ a, IsReadAs read? (write a) a) (as : List α) :
    IsReadAs (listOf? read?) (.array (as.map write)) as := by
  constructor
  · exact mapAll_map (fun a => (h a).written) as
  · show mapAll read? (normalItems (as.map write)) = some as
    rw [normalItems_eq_map, List.map_map]
    exact mapAll_map (fun a => (h a).sorted) as

/-! ### Plain parts -/

theorem isPlain_ofNat {n : Nat} (h : n < UInt64.size) (depth : Nat) :
    IsPlain depth (.ofNat n) := by
  have hrange : InRange n := by
    have hsize : UInt64.size = 0x10000000000000000 := rfl
    constructor <;> omega
  cases depth <;> exact hrange

theorem isPlain_ofOption {depth : Nat} {write : α → Json} (h : ∀ a, IsPlain depth (write a))
    (o : Option α) : IsPlain depth (.ofOption (o.map write)) := by
  cases o with
  | none => cases depth <;> trivial
  | some a => exact h a

theorem arePlain_map {depth : Nat} {write : α → Json} (h : ∀ a, IsPlain depth (write a))
    (as : List α) : ArePlain depth (as.map write) := by
  induction as with
  | nil => trivial
  | cons a as ih => exact ⟨h a, ih⟩

end Json

open Json

namespace Record

variable {α : Type} {r : Record} {name : String} {j : Json} {read? : Json → Option α} {a : α}

/-- A record has a value under a name, as it is or in its normal form. -/
def Gives (r : Record) (name : String) (j : Json) : Prop :=
  r.lookup name = some j ∨ r.lookup name = some j.normal

theorem Gives.required? (h : r.Gives name j) (hread : IsReadAs read? j a) :
    r.required? name read? = some a := by
  rcases h with h | h
  · rw [required?_of_lookup h, hread.written]
  · rw [required?_of_lookup h, hread.sorted]

theorem Gives.default? (h : r.Gives name j) (hread : IsReadAs read? j a) (default : α) :
    r.default? name read? default = some a := by
  rcases h with h | h
  · rw [default?_of_lookup h, hread.written]
  · rw [default?_of_lookup h, hread.sorted]

/-- A record has the values of some fields and no others. -/
structure Holds (r : Record) (fields : List (String × Json)) : Prop where
  given : ∀ field ∈ fields, r.Gives field.1 field.2
  absent : ∀ name ∉ fields.map Prod.fst, r.lookup name = none

end Record

namespace Json

variable {α : Type} {fields : List (String × Json)} {read? : Json → Option α} {a : α}

/-- The order of fields does not matter where they are read by their names. -/
theorem isReadAs_object (hnames : (fields.map Prod.fst).Nodup)
    (h : ∀ r : Record, r.Holds fields → read? (.object r) = some a) :
    IsReadAs read? (.object fields) a := by
  constructor
  · exact h fields ⟨fun field hfield => .inl (lookup_of_mem hnames hfield),
      fun name hname => lookup_eq_none_of_not_mem hname⟩
  · rw [normal_object]
    refine h (sortedFields fields) ⟨fun field hfield => .inr ?_, fun name hname => ?_⟩
    · rw [lookup_sortedFields hnames, lookup_of_mem hnames hfield, Option.map_some]
    · rw [lookup_sortedFields hnames, lookup_eq_none_of_not_mem hname, Option.map_none]

/-- What is read from a plain value is read from its bytes. -/
theorem bind_ofBytes?_bytes {j : Json} (hplain : IsPlain maxDepth j) (h : IsReadAs read? j a) :
    (ofBytes? j.bytes).bind read? = some a := by
  rw [ofBytes?, bytes, Utf8.decode?_encode, Option.bind_some, parse?_render hplain,
    Option.bind_some, h.sorted]

/-! ### Nothing is lost -/

/-- What is written for a datum is read as that datum, and a document that is read gives the same
datum when it has been written anew. -/
structure IsLossless {δ : Type} (write : α → δ) (read? : δ → Option α) : Prop where
  read_write : ∀ a, read? (write a) = some a
  read_again : ∀ d, ((read? d).bind fun a => read? (write a)) = read? d

theorem isLossless_of_read_write {δ : Type} {write : α → δ} {read? : δ → Option α}
    (h : ∀ a, read? (write a) = some a) : IsLossless write read? where
  read_write := h
  read_again d := by simp only [h, Option.bind_fun_some]

/-- Nothing is lost on the way to a value and back, nor on the way to bytes and back. -/
structure IsKept (write : α → Json) (read? : Json → Option α) : Prop where
  value : IsLossless write read?
  bytes : IsLossless (fun a => (write a).bytes) fun bs => (ofBytes? bs).bind read?

theorem isKept_of_isReadAs {write : α → Json} (hplain : ∀ a, IsPlain maxDepth (write a))
    (hread : ∀ a, IsReadAs read? (write a) a) : IsKept write read? where
  value := isLossless_of_read_write fun a => (hread a).written
  bytes := isLossless_of_read_write fun a => bind_ofBytes?_bytes (hplain a) (hread a)

end Json

end ModerationGateway
