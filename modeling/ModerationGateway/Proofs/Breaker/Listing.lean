import ModerationGateway.Proofs.Breaker.Registry
import Mathlib.Data.String.Basic

/-!
# The breakers in use

A registry tells of one breaker for each key in use, in the order of the keys.

* `IsIndexed`: the index is in order, and names breakers that were made;
* `IsIndexed.getOrCreate`, `IsIndexed.update`: both moves keep it;
* `IsIndexed.keys_snapshots`, `IsIndexed.mem_snapshots`: what is told of the breakers.
-/

namespace ModerationGateway.Breaker.Registry

variable {r : Registry} {key : String} {id : BreakerId}

/-! ### Ordered entries -/

/-- Each key comes before those of all later entries. -/
def IsOrdered (index : List (String × BreakerId)) : Prop := index.Pairwise fun e e' => e.1 < e'.1

variable {index : List (String × BreakerId)}

/-- What is in an index after a key was put there: the new entry, and entries from before. -/
theorem mem_place {e : String × BreakerId} (h : e ∈ place key id index) :
    e = (key, id) ∨ e ∈ index := by
  induction index with
  | nil => exact .inl (List.mem_singleton.1 h)
  | cons first rest ih =>
    obtain ⟨other, old⟩ := first
    rw [place] at h
    split at h
    · rcases List.mem_cons.1 h with h | h
      · exact .inl h
      · exact .inr (List.mem_cons_of_mem _ h)
    split at h
    · rcases List.mem_cons.1 h with h | h
      · exact .inl h
      · exact .inr h
    · rcases List.mem_cons.1 h with h | h
      · exact .inr (h ▸ List.mem_cons_self)
      · exact (ih h).imp_right (List.mem_cons_of_mem _)

theorem IsOrdered.place (h : IsOrdered index) (key : String) (id : BreakerId) :
    IsOrdered (place key id index) := by
  induction index with
  | nil => exact List.pairwise_singleton _ _
  | cons first rest ih =>
    obtain ⟨other, old⟩ := first
    obtain ⟨hfirst, hrest⟩ := List.pairwise_cons.1 h
    rw [Registry.place]
    by_cases hsame : key = other
    · rw [if_pos hsame]
      subst hsame
      exact List.pairwise_cons.2 ⟨hfirst, hrest⟩
    rw [if_neg hsame]
    by_cases hlt : key < other
    · rw [if_pos hlt]
      refine List.pairwise_cons.2 ⟨fun e he => ?_, h⟩
      rcases List.mem_cons.1 he with rfl | he
      · exact hlt
      · exact lt_trans hlt (hfirst e he)
    · rw [if_neg hlt]
      refine List.pairwise_cons.2 ⟨fun e he => ?_, ih hrest⟩
      rcases mem_place he with rfl | he
      · exact lt_of_le_of_ne (not_lt.1 hlt) (Ne.symm hsame)
      · exact hfirst e he

/-- An entry of an ordered index is what is found under its key. -/
theorem IsOrdered.lookup_eq_some_iff (h : IsOrdered index) :
    index.lookup key = some id ↔ (key, id) ∈ index := by
  induction index with
  | nil => simp
  | cons first rest ih =>
    obtain ⟨other, old⟩ := first
    obtain ⟨hfirst, hrest⟩ := List.pairwise_cons.1 h
    by_cases hsame : key = other
    · subst hsame
      have hlater : (key, id) ∉ rest := fun hmem => lt_irrefl key (hfirst _ hmem)
      simp [hlater, eq_comm]
    · rw [List.lookup_cons, beq_eq_false_iff_ne.2 hsame]
      simp [ih hrest, hsame]

/-! ### Registries -/

/-- The index is in order, and all its breakers were made. -/
structure IsIndexed (r : Registry) : Prop where
  ordered : IsOrdered r.index
  bound : ∀ e ∈ r.index, e.2 < r.made.length

namespace IsIndexed

theorem empty : IsIndexed .empty := ⟨List.Pairwise.nil, fun _ he => absurd he List.not_mem_nil⟩

theorem getOrCreate (h : r.IsIndexed) (key : String) (settings : BreakerSettings) (now : Nat) :
    (r.getOrCreate key settings now).1.IsIndexed := by
  rcases getOrCreate_cases r key settings now with ⟨id, b, -, -, hget⟩ | hget
  · rw [hget]
    exact h
  · rw [hget]
    refine ⟨h.ordered.place key r.made.length, fun e he => ?_⟩
    have hlength : (r.create key settings now).1.made.length = r.made.length + 1 :=
      List.length_append
    rw [hlength]
    rcases mem_place he with rfl | he
    · exact Nat.lt_succ_self _
    · exact Nat.lt_succ_of_lt (h.bound e he)

theorem update (h : r.IsIndexed) (id : BreakerId) (b : CircuitBreaker) :
    (r.update id b).IsIndexed := by
  refine ⟨h.ordered, fun e he => ?_⟩
  rw [Registry.update, List.length_set]
  exact h.bound e he

/-- Something is told of every key in use. -/
theorem keys_snapshots (h : r.IsIndexed) :
    r.snapshots.map Prod.fst = r.index.map Prod.fst := by
  have htold : ∀ e ∈ r.index, ∃ b, r.breaker? e.2 = some b := fun e he =>
    ⟨_, List.getElem?_eq_getElem (h.bound e he)⟩
  unfold snapshots
  generalize r.index = index at htold
  induction index with
  | nil => rfl
  | cons e rest ih =>
    obtain ⟨key, id⟩ := e
    obtain ⟨b, hb⟩ := htold (key, id) List.mem_cons_self
    have hrest := ih fun e he => htold e (List.mem_cons_of_mem _ he)
    simp only [List.filterMap_cons, hb, Option.map_some, List.map_cons, hrest]

/-- What is told of a key is what the breaker in use for it shows. -/
theorem mem_snapshots (h : r.IsIndexed) {told : Snapshot} :
    (key, told) ∈ r.snapshots ↔ ∃ id b, r.find? key = some (id, b) ∧ b.snapshot = told := by
  simp only [snapshots, List.mem_filterMap, Option.map_eq_some_iff, Prod.exists, Prod.mk.injEq,
    find?_eq_some, h.ordered.lookup_eq_some_iff]
  constructor
  · rintro ⟨key, id, hmem, b, hb, rfl, rfl⟩
    exact ⟨id, b, ⟨hmem, hb⟩, rfl⟩
  · rintro ⟨id, b, ⟨hmem, hb⟩, rfl⟩
    exact ⟨key, id, hmem, b, hb, rfl, rfl⟩

end IsIndexed

end ModerationGateway.Breaker.Registry
