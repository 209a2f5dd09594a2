import ModerationGateway.Proofs.Text.Lines
import ModerationGateway.Words.WordList

/-!
# Word lists, written and read again

A word list is read line by line, so lists put one below the other are read as each would be by
itself. What is read from it is a list of words that can be written one a line, and is then read
as it was written, whichever line end is used.

* `IsListed`: what every word of a list is like;
* `parseWordList_eq_endedLines`: only the contents of the lines count, not how they are ended;
* `parseWordList_append`: two lists, one below the other;
* `IsListed.parseWordList_append`, `isListed_iff`: a listed word is the list of itself;
* `parseWordList_intercalate`: listed words, written one a line;
* `IsStable`, `parseWordList_isStable`: what a list is read as, what that is read as, and how lists
  compose.
-/

namespace ModerationGateway.Words

open ModerationGateway.Text

/-- What a word of a list is like. A carriage return and blanks of every kind may stand inside it,
but not at its ends. -/
structure IsListed (w : String) : Prop where
  ne_empty : w ≠ ""
  trimmed_eq : trimmed w = w
  inLine : '\n' ∉ w.toList
  noComment : w.toList.head? ≠ some '#'

theorem holdsWord_iff {line : List Char} :
    holdsWord line = true ↔ line ≠ [] ∧ line.head? ≠ some '#' := by
  cases line <;> simp [holdsWord]

theorem trimmed_eq_iff {w : String} : trimmed w = w ↔ trim w.toList = w.toList := by
  rw [trimmed, ← String.toList_inj, String.toList_ofList]

/-! ### One line after another -/

theorem parseWordList_eq_endedLines (content : String) :
    parseWordList content =
      (((endedLines content.toList).map trim).filter holdsWord).map String.ofList := by
  rw [parseWordList, wordLines, filter_map_trim_endedLines rfl]

theorem wordLines_append_cons (as bs : List Char) :
    wordLines (as ++ '\n' :: bs) = wordLines as ++ wordLines bs := by
  rw [wordLines, lines_append_cons, List.map_append, List.filter_append]
  rfl

/-- Lists put one below the other are read as each would be by itself. -/
theorem parseWordList_append (a b : String) :
    parseWordList (a ++ "\n" ++ b) = parseWordList a ++ parseWordList b := by
  have hchars : (a ++ "\n" ++ b).toList = a.toList ++ '\n' :: b.toList := by simp
  rw [parseWordList, hchars, wordLines_append_cons, List.map_append]
  rfl

/-! ### Listed words -/

theorem isListed_of_mem {content w : String} (h : w ∈ parseWordList content) : IsListed w := by
  obtain ⟨cs, hcs, rfl⟩ := List.mem_map.1 h
  obtain ⟨hmem, hholds⟩ := List.mem_filter.1 hcs
  obtain ⟨line, hline, rfl⟩ := List.mem_map.1 hmem
  obtain ⟨hne, hcomment⟩ := holdsWord_iff.1 hholds
  constructor
  · case ne_empty => simpa using hne
  · case trimmed_eq => rw [trimmed_eq_iff, String.toList_ofList, trim_trim]
  · case inLine =>
    rw [String.toList_ofList]
    exact fun hfeed => not_mem_of_mem_lines hline ((trim_sublist line).subset hfeed)
  · case noComment => rwa [String.toList_ofList]

/-- A listed word alone on a line, with blanks behind it or without, is read as that word. -/
theorem IsListed.parseWordList_append {w : String} (h : IsListed w) {blanks : String}
    (hblank : isBlankText blanks.toList = true) (hline : '\n' ∉ blanks.toList) :
    parseWordList (w ++ blanks) = [w] := by
  have hfeed : '\n' ∉ (w ++ blanks).toList := by
    rw [String.toList_append, List.mem_append]
    exact not_or.2 ⟨h.inLine, hline⟩
  have htrim : trim (w ++ blanks).toList = w.toList := by
    rw [String.toList_append, trim_append_of_isBlankText hblank, trimmed_eq_iff.1 h.trimmed_eq]
  have hholds : holdsWord w.toList = true :=
    holdsWord_iff.2 ⟨mt String.toList_eq_nil_iff.1 h.ne_empty, h.noComment⟩
  rw [parseWordList, wordLines, lines_of_not_mem hfeed, List.map_singleton, htrim,
    List.filter_singleton, hholds, cond_true, List.map_singleton, String.ofList_toList]

/-- The words that lists can hold are those that are lists of themselves. -/
theorem isListed_iff {w : String} : IsListed w ↔ parseWordList w = [w] := by
  constructor
  · intro h
    have hparse : parseWordList (w ++ "") = [w] := h.parseWordList_append rfl (by simp)
    rwa [String.append_empty] at hparse
  · intro h
    exact isListed_of_mem (h ▸ List.mem_singleton_self w)

/-- Listed words, written one a line, are read as they were written. Blanks before the line feeds
do not count. -/
theorem parseWordList_intercalate {words : List String} (hwords : ∀ w ∈ words, IsListed w)
    (blanks : String) (hblank : isBlankText blanks.toList = true) (hline : '\n' ∉ blanks.toList) :
    parseWordList ((blanks ++ "\n").intercalate words) = words := by
  induction words with
  | nil => rfl
  | cons w words ih =>
    obtain ⟨hw, hrest⟩ := List.forall_mem_cons.1 hwords
    cases words with
    | nil => rw [String.intercalate_singleton, isListed_iff.1 hw]
    | cons next words =>
      rw [String.intercalate_cons_cons, ← String.append_assoc, parseWordList_append,
        hw.parseWordList_append hblank hline, ih hrest, List.singleton_append]

/-- What is read from a word list. -/
structure IsStable (content : String) : Prop where
  /-- They are words that stand in a line of their own, trimmed and no comments. -/
  listed : ∀ w ∈ parseWordList content, IsListed w
  /-- They are the lines that hold one, where a carriage return before a line feed belongs to the line
  end, and what stands behind the last line feed is a line if it is not empty. -/
  eq_endedLines : parseWordList content =
    (((endedLines content.toList).map trim).filter holdsWord).map String.ofList
  /-- Written one a line with either line end, they are read again as they are. -/
  intercalate_feed :
    parseWordList ("\n".intercalate (parseWordList content)) = parseWordList content
  intercalate_return :
    parseWordList ("\r\n".intercalate (parseWordList content)) = parseWordList content
  /-- A list below another one adds its words behind those of the other. -/
  append : ∀ more : String,
    parseWordList (content ++ "\n" ++ more) = parseWordList content ++ parseWordList more

/-- What is read from any word list is stable, and a word can be read from one exactly if it is the
list of itself. -/
theorem parseWordList_isStable :
    (∀ content, IsStable content) ∧ ∀ w, IsListed w ↔ parseWordList w = [w] := by
  refine ⟨fun content => ?_, fun w => isListed_iff⟩
  have hlisted : ∀ w ∈ parseWordList content, IsListed w := fun w hw => isListed_of_mem hw
  constructor
  case listed => exact hlisted
  case eq_endedLines => exact parseWordList_eq_endedLines content
  case intercalate_feed => exact parseWordList_intercalate hlisted "" rfl (by simp)
  case intercalate_return => exact parseWordList_intercalate hlisted "\r" rfl (by simp)
  case append => exact parseWordList_append content

/-- A comment behind blanks, wide blanks at the ends of a line, and a carriage return inside a word:
the line ends of the text are of both kinds. -/
example : parseWordList "\u3000# none\r\n\u2028 bad#\u00a0\r\none\rtwo\n\r\n #\n" =
    ["bad#", "one\rtwo"] := by
  decide +kernel

end ModerationGateway.Words
