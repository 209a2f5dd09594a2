/-!
# Associations

A finite map as a list of pairs of keys and values, in the order the keys came.

* `put`: set the value of a key;
* `take`: drop a key;
* `lookup_put`, `lookup_put_of_ne`, `put_of_not_mem`: what `put` changes;
* `lookup_take`, `lookup_take_of_ne`: what `take` changes;
* `lookup_of_mem`, `lookup_eq_none_of_not_mem`: what stands under a key;
* `nodup_put`, `nodup_take`: no key comes twice.
-/

namespace ModerationGateway

/-- Pairs of keys and values, every key at most once. -/
abbrev Association (α : Type) := List (String × α)

/-- Set the value of a key. A key keeps its place; a new one comes last. -/
def put {α : Type} (key : String) (value : α) : Association α → Association α
  | [] => [(key, value)]
  | (other, old) :: rest =>
    if key = other then (key, value) :: rest else (other, old) :: put key value rest

/-- Take a key away. -/
def take {α : Type} (key : String) (entries : Association α) : Association α :=
  entries.filter fun entry => entry.1 != key

@[simp] theorem lookup_put {α : Type} (key : String) (value : α) (entries : Association α) :
    (put key value entries).lookup key = some value := by
  induction entries with
  | nil => simp [put]
  | cons entry rest ih =>
    obtain ⟨other, old⟩ := entry
    simp only [put]
    split
    · simp
    · rename_i h
      have : (key == other) = false := by simpa using h
      simp [List.lookup_cons, this, ih]

theorem lookup_put_of_ne {α : Type} {key other : String} (h : other ≠ key) (value : α)
    (entries : Association α) : (put key value entries).lookup other = entries.lookup other := by
  have hb : (other == key) = false := by simpa using h
  induction entries with
  | nil => simp [put, List.lookup_cons, hb]
  | cons entry rest ih =>
    obtain ⟨third, old⟩ := entry
    simp only [put]
    split
    · rename_i heq
      subst heq
      simp [List.lookup_cons, hb]
    · simp only [List.lookup_cons]
      split <;> simp_all

theorem put_of_not_mem {α : Type} {key : String} {entries : Association α}
    (h : key ∉ entries.map Prod.fst) (value : α) :
    put key value entries = entries ++ [(key, value)] := by
  induction entries with
  | nil => rfl
  | cons entry entries ih =>
    obtain ⟨other, old⟩ := entry
    simp only [List.map_cons, List.mem_cons, not_or] at h
    rw [put, if_neg h.1, ih h.2, List.cons_append]

@[simp] theorem lookup_take {α : Type} (key : String) (entries : Association α) :
    (take key entries).lookup key = none := by
  rw [List.lookup_eq_none_iff]
  intro entry hentry
  have hne : entry.1 ≠ key := by simpa using (List.mem_filter.1 hentry).2
  simpa using hne.symm

theorem lookup_take_of_ne {α : Type} {key other : String} (h : other ≠ key)
    (entries : Association α) : (take key entries).lookup other = entries.lookup other := by
  induction entries with
  | nil => rfl
  | cons entry rest ih =>
    obtain ⟨third, value⟩ := entry
    rw [take] at ih ⊢
    by_cases hthird : third = key
    · subst hthird
      have hb : (other == third) = false := by simpa using h
      simpa [List.lookup_cons, hb] using ih
    · have hb : (third != key) = true := by simpa using hthird
      rw [List.filter_cons, if_pos hb, List.lookup_cons, List.lookup_cons, ih]

theorem lookup_eq_none_of_not_mem {α : Type} {key : String} {entries : Association α}
    (h : key ∉ entries.map Prod.fst) : entries.lookup key = none := by
  rw [List.lookup_eq_none_iff]
  intro entry hentry
  have hne : key ≠ entry.1 := fun heq => h (heq ▸ List.mem_map_of_mem hentry)
  simpa using hne

theorem lookup_of_mem {α : Type} {entries : Association α} (h : (entries.map Prod.fst).Nodup)
    {entry : String × α} (hentry : entry ∈ entries) :
    entries.lookup entry.1 = some entry.2 := by
  induction entries with
  | nil => cases hentry
  | cons first rest ih =>
    obtain ⟨hnew, hrest⟩ := List.nodup_cons.1 h
    rcases List.mem_cons.1 hentry with rfl | hlater
    · rw [List.lookup_cons, beq_self_eq_true]
    · have hne : entry.1 ≠ first.1 := fun heq => hnew (heq ▸ List.mem_map_of_mem hlater)
      have hb : (entry.1 == first.1) = false := by simpa using hne
      rw [List.lookup_cons, hb]
      exact ih hrest hlater

/-- A key that is set has its place or comes last. -/
theorem map_fst_put {α : Type} (key : String) (value : α) (entries : Association α) :
    (put key value entries).map Prod.fst =
      if key ∈ entries.map Prod.fst then entries.map Prod.fst
      else entries.map Prod.fst ++ [key] := by
  induction entries with
  | nil => rfl
  | cons entry rest ih =>
    obtain ⟨other, old⟩ := entry
    rw [put]
    by_cases h : key = other
    · subst h
      simp
    · rw [if_neg h, List.map_cons, ih]
      by_cases hrest : key ∈ rest.map Prod.fst <;> simp [h, hrest]

theorem nodup_put {α : Type} {entries : Association α} (h : (entries.map Prod.fst).Nodup)
    (key : String) (value : α) : ((put key value entries).map Prod.fst).Nodup := by
  rw [map_fst_put]
  split
  · exact h
  next hnew =>
    refine List.nodup_append.2 ⟨h, by simp, fun other hother last hlast heq => hnew ?_⟩
    rwa [← List.mem_singleton.1 hlast, ← heq]

theorem nodup_take {α : Type} {entries : Association α} (h : (entries.map Prod.fst).Nodup)
    (key : String) : ((take key entries).map Prod.fst).Nodup :=
  h.sublist (List.filter_sublist.map Prod.fst)

end ModerationGateway
