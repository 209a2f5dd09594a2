/-!
# Occurrences

* `occurs`: a list occurs in another as a run of neighbours;
* `contains`: the same for strings.
-/

namespace ModerationGateway.Text

variable {α : Type} [BEq α]

/-- The first list occurs in the second one as a run of neighbours. -/
def occurs (needle : List α) : List α → Bool
  | [] => needle.isEmpty
  | a :: as => needle.isPrefixOf (a :: as) || occurs needle as

/-- A string occurs in another. -/
def contains (text needle : String) : Bool := occurs needle.toList text.toList

theorem occurs_iff_infix [LawfulBEq α] (needle hay : List α) :
    occurs needle hay = true ↔ needle <:+: hay := by
  induction hay with
  | nil => simp [occurs]
  | cons a as ih =>
    simp only [occurs, Bool.or_eq_true, List.isPrefixOf_iff_prefix, ih]
    rw [List.infix_cons_iff]

end ModerationGateway.Text
