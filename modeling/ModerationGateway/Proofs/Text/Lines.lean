import Mathlib.Data.List.DropRight
import ModerationGateway.Text.Split

/-!
# Lines and their ends

A text falls apart at each of its line feeds, whatever stands around it. Trimming takes the blanks
from the two ends of a line and leaves a text with nothing to trim.

* `splitAt_append_cons`, `lines_append_cons`: the pieces on the two sides of a separator;
* `not_mem_of_mem_splitAt`: no separator is left in a piece;
* `trim_eq_nil_iff`, `trim_eq_self_iff`: the texts of which trimming leaves nothing, and everything;
* `trim_trim`, `trim_append_of_isBlankText`: trimming again, and with more blanks at the end;
* `endedLines`, `filter_map_trim_endedLines`: the lines as they are read, where a carriage return
  before a line feed belongs to the line end, and what is the same about them.
-/

namespace ModerationGateway.Text

/-! ### Pieces -/

section Pieces

variable {α : Type} {isSep : α → Bool} {a : α}

/-- Splitting respects every separator: everything said of lines below follows from this. -/
theorem splitAt_append_cons (ha : isSep a = true) (as bs : List α) :
    splitAt isSep (as ++ a :: bs) = splitAt isSep as ++ splitAt isSep bs := by
  induction as with
  | nil => rw [List.nil_append, splitAt_cons_sep ha, splitAt_nil, List.singleton_append]
  | cons c cs ih =>
    by_cases hc : isSep c = true
    · rw [List.cons_append, splitAt_cons_sep hc, splitAt_cons_sep hc, ih, List.cons_append]
    · rw [List.cons_append, splitAt, splitAt, if_neg hc, if_neg hc, ih]
      cases hcs : splitAt isSep cs with
      | nil => exact absurd hcs (splitAt_ne_nil isSep cs)
      | cons piece pieces => rfl

theorem not_mem_of_mem_splitAt (ha : isSep a = true) {as piece : List α}
    (h : piece ∈ splitAt isSep as) : a ∉ piece := by
  induction as generalizing piece with
  | nil =>
    obtain rfl : piece = [] := by simpa using h
    exact List.not_mem_nil
  | cons c cs ih =>
    by_cases hc : isSep c = true
    · rw [splitAt_cons_sep hc, List.mem_cons] at h
      rcases h with rfl | h
      · exact List.not_mem_nil
      · exact ih h
    · have hne : a ≠ c := fun hac => hc (hac ▸ ha)
      rw [splitAt, if_neg hc] at h
      cases hrest : splitAt isSep cs with
      | nil => exact absurd hrest (splitAt_ne_nil isSep cs)
      | cons first pieces =>
        rw [hrest, List.mem_cons] at h
        rcases h with rfl | h
        · have hfirst := ih (hrest ▸ List.mem_cons_self)
          simp [hne, hfirst]
        · exact ih (hrest ▸ List.mem_cons_of_mem _ h)

end Pieces

theorem lines_append_cons (as bs : List Char) :
    lines (as ++ '\n' :: bs) = lines as ++ lines bs :=
  splitAt_append_cons rfl as bs

theorem lines_of_not_mem {cs : List Char} (h : '\n' ∉ cs) : lines cs = [cs] :=
  splitAt_of_all_not fun _ hc => beq_eq_false_iff_ne.2 fun hfeed => h (hfeed ▸ hc)

theorem not_mem_of_mem_lines {cs line : List Char} (h : line ∈ lines cs) : '\n' ∉ line :=
  not_mem_of_mem_splitAt rfl h

/-! ### Trimming -/

variable {cs : List Char} {b : Char}

theorem trimEnd_eq_rdropWhile (cs : List Char) : trimEnd cs = cs.rdropWhile isBlank := rfl

theorem trim_isPrefix (cs : List Char) : trim cs <+: trimStart cs :=
  List.rdropWhile_prefix isBlank (trimStart cs)

theorem trim_sublist (cs : List Char) : (trim cs).Sublist cs :=
  (trim_isPrefix cs).sublist.trans (List.dropWhile_sublist isBlank)

theorem isBlank_head_trim (h : trim cs ≠ []) : isBlank ((trim cs).head h) = false := by
  rw [(trim_isPrefix cs).head h]
  exact List.head_dropWhile_not isBlank _

theorem isBlank_getLast_trim (h : trim cs ≠ []) : isBlank ((trim cs).getLast h) = false :=
  Bool.eq_false_iff.2 (List.rdropWhile_last_not isBlank (trimStart cs) h)

/-- Trimming leaves nothing of a text exactly if all of it is blank. -/
theorem trim_eq_nil_iff (cs : List Char) : trim cs = [] ↔ isBlankText cs = true := by
  rw [isBlankText_iff]
  constructor
  · intro h
    have hall := List.rdropWhile_eq_nil_iff.1 h
    by_contra hstart
    -- what is left in front is not blank, so that trimming the end stops there at the latest
    have hhead : isBlank ((trimStart cs).head hstart) = false := List.head_dropWhile_not isBlank _
    rw [hall _ (List.head_mem hstart)] at hhead
    contradiction
  · intro h
    rw [trim, h, trimEnd_nil]

/-- There is nothing to trim exactly if no end of the text is blank. -/
theorem trim_eq_self_iff : trim cs = cs ↔
    ∀ h : cs ≠ [], isBlank (cs.head h) = false ∧ isBlank (cs.getLast h) = false := by
  constructor
  · intro htrim h
    rw [← htrim] at h
    have hends := And.intro (isBlank_head_trim h) (isBlank_getLast_trim h)
    simpa only [htrim] using hends
  · intro hends
    have hstart : trimStart cs = cs := by
      cases cs with
      | nil => rfl
      | cons c cs => exact List.dropWhile_cons_of_neg (by simpa using (hends (by simp)).1)
    rw [trim, hstart, trimEnd_eq_rdropWhile, List.rdropWhile_eq_self_iff]
    exact fun h => Bool.eq_false_iff.1 (hends h).2

theorem trim_trim (cs : List Char) : trim (trim cs) = trim cs :=
  trim_eq_self_iff.2 fun h => ⟨isBlank_head_trim h, isBlank_getLast_trim h⟩

/-- A text with a visible character at each end has nothing to trim. -/
theorem trim_of_ends {c d : Char} (hc : isBlank c = false) (hd : isBlank d = false)
    (cs : List Char) : trim (c :: (cs ++ [d])) = c :: (cs ++ [d]) :=
  trim_eq_self_iff.2 fun _ => ⟨hc, by simpa using hd⟩

theorem trim_cons_of_isBlank (h : isBlank b = true) (cs : List Char) :
    trim (b :: cs) = trim cs := by
  simp [trim, trimStart, h]

theorem trim_concat_of_isBlank (h : isBlank b = true) (cs : List Char) :
    trim (cs ++ [b]) = trim cs := by
  rw [trim, trim, trimStart, List.dropWhile_append, trimStart]
  cases hcs : cs.dropWhile isBlank with
  | nil => simp [h]
  | cons c rest => exact List.rdropWhile_concat_pos isBlank (c :: rest) b h

theorem trim_append_of_isBlankText {blanks : List Char} (h : isBlankText blanks = true)
    (cs : List Char) : trim (cs ++ blanks) = trim cs := by
  induction blanks generalizing cs with
  | nil => rw [List.append_nil]
  | cons b blanks ih =>
    rw [isBlankText, List.all_cons, Bool.and_eq_true] at h
    rw [List.append_cons, ih h.2, trim_concat_of_isBlank h.1]

/-! ### Lines as they are read -/

/-- A line without a carriage return at its end. -/
def dropReturn (line : List Char) : List Char :=
  if line.getLast? = some '\r' then line.dropLast else line

theorem trim_dropReturn (line : List Char) : trim (dropReturn line) = trim line := by
  rw [dropReturn]
  split
  · next hlast =>
    obtain ⟨front, rfl⟩ := List.getLast?_eq_some_iff.1 hlast
    rw [List.dropLast_concat, trim_concat_of_isBlank (by decide)]
  · rfl

/-- The lines of a text as they are read: what a line feed ends, without a carriage return before
it, and what stands behind the last line feed if that is not empty. -/
def endedLines (cs : List Char) : List (List Char) :=
  (lines cs).dropLast.map dropReturn ++ (lines cs).getLast?.toList.filter (!·.isEmpty)

/-- Read or split, the lines of a text have the same contents. -/
theorem filter_map_trim_endedLines {holds : List Char → Bool} (hnil : holds [] = false)
    (cs : List Char) :
    ((endedLines cs).map trim).filter holds = ((lines cs).map trim).filter holds := by
  obtain ⟨front, last, hlines⟩ : ∃ front last, lines cs = front ++ [last] :=
    ⟨_, _, (List.dropLast_append_getLast (splitAt_ne_nil _ cs)).symm⟩
  have hfront : (front.map dropReturn).map trim = front.map trim := by
    rw [List.map_map]
    exact List.map_congr_left fun line _ => trim_dropReturn line
  rw [endedLines, hlines, List.dropLast_concat, List.getLast?_concat, List.map_append, hfront,
    List.map_append, List.filter_append, List.filter_append]
  cases last with
  | nil => simp [hnil]
  | cons c rest => rfl

end ModerationGateway.Text
