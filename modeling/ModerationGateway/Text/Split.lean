import ModerationGateway.Text.Blank

/-!
# Splitting at a separator

* `splitAt`: the pieces between the elements that satisfy a predicate. There is always at least
  one piece, and with one separator put back between neighbours they make up the input;
* `cutAt`: what stands before the first separator, and what stands behind it;
* `lines`, `words`: what stands between line feeds, and between white space.
-/

namespace ModerationGateway.Text

variable {α : Type}

/-- The pieces between the separators, the last one being what follows the last separator. -/
def splitAt (isSep : α → Bool) : List α → List (List α)
  | [] => [[]]
  | a :: as =>
    if isSep a then [] :: splitAt isSep as
    else match splitAt isSep as with
      | [] => [[a]]
      | piece :: pieces => (a :: piece) :: pieces

@[simp] theorem splitAt_nil (isSep : α → Bool) : splitAt isSep [] = [[]] := rfl

theorem splitAt_ne_nil (isSep : α → Bool) (as : List α) : splitAt isSep as ≠ [] := by
  cases as with
  | nil => simp
  | cons a as =>
    rw [splitAt]
    split
    · simp
    · split <;> simp

theorem splitAt_cons_sep {isSep : α → Bool} {a : α} (h : isSep a = true) (as : List α) :
    splitAt isSep (a :: as) = [] :: splitAt isSep as := by
  simp [splitAt, h]

/-- Without a separator the whole input is the one piece. -/
theorem splitAt_of_all_not {isSep : α → Bool} {as : List α} (h : ∀ a ∈ as, isSep a = false) :
    splitAt isSep as = [as] := by
  induction as with
  | nil => rfl
  | cons a as ih =>
    simp [splitAt, h a (by simp), ih (fun b hb => h b (by simp [hb]))]

/-- What stands before the first separator, and what stands behind it if there is one. -/
def cutAt (isSep : α → Bool) (as : List α) : List α × Option (List α) :=
  match as.dropWhile (!isSep ·) with
  | [] => (as, none)
  | _ :: rest => (as.takeWhile (!isSep ·), some rest)

/-- The lines of a text: what stands between its line feeds. -/
def lines (cs : List Char) : List (List Char) := splitAt (· == '\n') cs

/-- Put a character in front of words: the word that goes on, and the words after it. -/
def addToWords (c : Char) : List Char × List (List Char) → List Char × List (List Char)
  | (word, rest) =>
    if isBlank c then ([], if word.isEmpty then rest else word :: rest) else (c :: word, rest)

/-- The words of a text: what stands between its white space. -/
def words (cs : List Char) : List (List Char) :=
  match cs.foldr addToWords ([], []) with
  | ([], rest) => rest
  | (word, rest) => word :: rest

end ModerationGateway.Text
