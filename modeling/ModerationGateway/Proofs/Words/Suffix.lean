import Mathlib.Data.List.Infix

/-!
# The longest suffix with a property

A scan for many words keeps the longest suffix of what it has read that a word may still begin
with. Such a set of beginnings holds every beginning of its members, and this alone makes the
longest suffix a state: it can be computed from the one before and the next character.

* `longestSuffix`: the longest suffix in a set;
* `longestSuffix_suffix`, `longestSuffix_mem`, `suffix_longestSuffix`: its three properties;
* `IsLongestSuffix`, `isLongestSuffix_longestSuffix`: these as what a longest suffix is;
* `PrefixClosed`, `longestSuffix_append_singleton`: the next state;
* `filterMap_tails_longestSuffix`: nothing in the set is lost with the rest of a list.
-/

namespace ModerationGateway.Words

variable {α β : Type} {P : List α → Bool}

/-- The longest suffix in a set that holds the empty list. -/
def longestSuffix (P : List α → Bool) : List α → List α
  | [] => []
  | a :: as => if P (a :: as) then a :: as else longestSuffix P as

@[simp] theorem longestSuffix_nil (P : List α → Bool) : longestSuffix P [] = [] := rfl

theorem longestSuffix_of_mem {as : List α} (h : P as = true) : longestSuffix P as = as := by
  cases as with
  | nil => rfl
  | cons a as => simp [longestSuffix, h]

theorem longestSuffix_cons_of_not_mem {a : α} {as : List α} (h : P (a :: as) = false) :
    longestSuffix P (a :: as) = longestSuffix P as := by
  simp [longestSuffix, h]

theorem longestSuffix_suffix (P : List α → Bool) (as : List α) : longestSuffix P as <:+ as := by
  induction as with
  | nil => exact List.suffix_rfl
  | cons a as ih =>
    unfold longestSuffix
    split
    · exact List.suffix_rfl
    · exact ih.trans (List.suffix_cons a as)

theorem longestSuffix_mem (hnil : P [] = true) (as : List α) : P (longestSuffix P as) = true := by
  induction as with
  | nil => exact hnil
  | cons a as ih =>
    unfold longestSuffix
    split
    next h => exact h
    · exact ih

/-- Every suffix in the set is a suffix of the longest one. -/
theorem suffix_longestSuffix {as bs : List α} (hsuffix : bs <:+ as) (hbs : P bs = true) :
    bs <:+ longestSuffix P as := by
  induction as with
  | nil => exact hsuffix
  | cons a as ih =>
    cases h : P (a :: as) with
    | true => rwa [longestSuffix_of_mem h]
    | false =>
      rw [longestSuffix_cons_of_not_mem h]
      rcases List.suffix_cons_iff.1 hsuffix with rfl | hsuffix
      · rw [hbs] at h
        contradiction
      · exact ih hsuffix

/-- Of the suffixes of a list in a set, this one is the longest. -/
structure IsLongestSuffix (P : List α → Bool) (as bs : List α) : Prop where
  suffix : bs <:+ as
  mem : P bs = true
  longest : ∀ cs, cs <:+ as → P cs = true → cs.length ≤ bs.length

theorem isLongestSuffix_longestSuffix (hnil : P [] = true) (as : List α) :
    IsLongestSuffix P as (longestSuffix P as) :=
  ⟨longestSuffix_suffix P as, longestSuffix_mem hnil as,
    fun _ hsuffix hmem => (suffix_longestSuffix hsuffix hmem).length_le⟩

/-- With a list a set holds all its beginnings. -/
def PrefixClosed (P : List α → Bool) : Prop := ∀ as bs, P (as ++ bs) = true → P as = true

/-- The longest suffix after one more character depends on the one before and the character. -/
theorem longestSuffix_append_singleton (hclosed : PrefixClosed P) (as : List α) (a : α) :
    longestSuffix P (longestSuffix P as ++ [a]) = longestSuffix P (as ++ [a]) := by
  induction as with
  | nil => rfl
  | cons b as ih =>
    cases h : P (b :: as) with
    | true => rw [longestSuffix_of_mem h]
    | false =>
      have hnext : P (b :: (as ++ [a])) = false := by
        rw [← Bool.not_eq_true]
        intro hmem
        rw [hclosed (b :: as) [a] hmem] at h
        contradiction
      rw [longestSuffix_cons_of_not_mem h, ih, List.cons_append,
        longestSuffix_cons_of_not_mem hnext]

/-- The suffixes of a list that count for something are those of its longest suffix in the set, if
nothing counts outside the set. -/
theorem filterMap_tails_longestSuffix {f : List α → Option β}
    (hf : ∀ as, P as = false → f as = none) (as : List α) :
    (longestSuffix P as).tails.filterMap f = as.tails.filterMap f := by
  induction as with
  | nil => rfl
  | cons a as ih =>
    cases h : P (a :: as) with
    | true => rw [longestSuffix_of_mem h]
    | false =>
      rw [longestSuffix_cons_of_not_mem h, ih, List.tails_cons, List.filterMap_cons_none (hf _ h)]

end ModerationGateway.Words
