import Mathlib.Data.List.DropRight

/-!
# Lists

What several parts of the theory need of lists.

* `length_rtake`, `rtake_rtake_append`: the newest elements of a list that grows;
* `map_set_of_eq`: an element that comes in the place of another one.
-/

namespace ModerationGateway

variable {α β : Type}

theorem length_rtake (xs : List α) (n : Nat) : (xs.rtake n).length = min xs.length n := by
  rw [List.rtake, List.length_drop]
  omega

/-- The newest elements of what was kept and what comes in are those of everything. -/
theorem rtake_rtake_append (xs ys : List α) (n : Nat) :
    (xs.rtake n ++ ys).rtake n = (xs ++ ys).rtake n := by
  have hkept : xs.rtake n ++ ys = (xs ++ ys).drop (xs.length - n) :=
    (List.drop_append_of_le_length (Nat.sub_le _ _)).symm
  rw [hkept, List.rtake, List.rtake, List.drop_drop]
  congr 1
  simp only [List.length_drop, List.length_append]
  omega

/-- A function does not see that one element comes in the place of another if it makes the same of
both. -/
theorem map_set_of_eq {l : List α} {i : Nat} {a b : α} (h : l[i]? = some a) (f : α → β)
    (hf : f b = f a) : (l.set i b).map f = l.map f := by
  obtain ⟨hi, rfl⟩ := List.getElem?_eq_some_iff.1 h
  have hi' : i < (l.map f).length := by simpa using hi
  have hsame : f l[i] = (l.map f)[i] := by simp
  rw [List.map_set, hf, hsame, List.set_getElem_self]

end ModerationGateway
