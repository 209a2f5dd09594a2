import Mathlib.Algebra.GroupWithZero.Nat
import Mathlib.Data.List.Chain
import ModerationGateway.Proofs.Lists
import ModerationGateway.Stream.Window

/-!
# What a window shows

After the first check a window shows the newest characters of all that has arrived, as many as fit;
the first check itself sees everything. What arrives can be older than that by the time of the next
check, and then no check has seen it.

* `Window.oldest`: where the shown text begins;
* `Window.Tracks`: a window, by what has arrived and where the last check stood;
* `Tracks.add`, `Tracks.checked`: text arrives, and a check is let go;
* `checkEnds`: where the checks of a text stand that arrives in pieces of given lengths;
* `spans`: the stretches of the text that they see;
* `isShown_iff`, `forall_isShown_iff`: which characters are in one of them, and when all are.
-/

namespace ModerationGateway.Stream

namespace Window

/-- Where the shown text begins. No check has been made yet if the last one stood at zero. -/
def oldest (size last total : Nat) : Nat := if last = 0 then 0 else total - size

/-- The window after some text has arrived, the last check of which stood at a given place. -/
structure Tracks (w : Window) (size : Nat) (arrived : List Char) (last : Nat) : Prop where
  size_eq : w.size = size
  size_pos : 0 < size
  last_le : last ≤ arrived.length
  steady : w.isSteady = decide (0 < last)
  text_eq : w.text = arrived.drop (oldest size last arrived.length)
  length_eq : w.length = w.text.length
  unchecked : 0 < w.unchecked ↔ last < arrived.length

theorem tracks_ofSize (size : Nat) : (ofSize size).Tracks (max size 1) [] 0 :=
  ⟨rfl, by omega, Nat.le_refl _, rfl, rfl, rfl, by simp [ofSize]⟩

variable {w : Window} {size last : Nat} {arrived : List Char}

/-- Shrinking keeps the newest characters. -/
theorem text_shrink (hlength : w.length = w.text.length) :
    w.shrink.text = w.text.drop (w.text.length - w.size) := by
  unfold shrink
  split
  next h =>
    rw [hlength] at h
    rw [Nat.sub_eq_zero_of_le h, List.drop_zero]
  · simp [hlength]

theorem length_shrink (hlength : w.length = w.text.length) :
    w.shrink.length = w.shrink.text.length := by
  unfold shrink
  split
  · exact hlength
  · simp only [List.length_drop]
    omega

theorem unchecked_shrink (hsize : 0 < w.size) : 0 < w.shrink.unchecked ↔ 0 < w.unchecked := by
  unfold shrink
  split
  · rfl
  · dsimp only
    omega

@[simp] theorem isSteady_shrink (w : Window) : w.shrink.isSteady = w.isSteady := by
  unfold shrink
  split <;> rfl

/-- Text makes a check due if none was made yet, and later if it fills the window. -/
theorem add_of_ne_nil {added : List Char} (hadded : added ≠ []) (w : Window) :
    w.add added =
      if w.isSteady then
        ((w.extend added).shrink, decide (w.size ≤ (w.extend added).shrink.length))
      else (w.extend added, true) := by
  have hpos := List.length_pos_iff.2 hadded
  have hgrown : 0 < (w.extend added).length := Nat.lt_add_left _ hpos
  unfold add
  rw [if_neg (by simpa using hadded)]
  split
  · simp only [size_shrink]
    rfl
  · simp [hgrown]

/-- Text arrives. It makes a check due if none was made yet or the window is full. -/
theorem Tracks.add (h : w.Tracks size arrived last) (added : List Char) :
    (w.add added).1.Tracks size (arrived ++ added) last ∧
      ((w.add added).2 = true ↔
        0 < added.length ∧ (last = 0 ∨ size ≤ (arrived ++ added).length)) := by
  by_cases hadded : added = []
  · subst hadded
    simpa using h
  have hpos := List.length_pos_iff.2 hadded
  obtain ⟨hsize, hsize_pos, hle, hsteady, htext, hlength, hunchecked⟩ := h
  have hgrown : (w.extend added).length = (w.extend added).text.length := by
    simp [extend, hlength]
  rw [add_of_ne_nil hadded]
  -- before the first check nothing is dropped, afterwards the oldest characters are
  rcases Nat.eq_zero_or_pos last with rfl | hlast
  · rw [if_neg (by simp [hsteady])]
    refine ⟨⟨hsize, hsize_pos, Nat.zero_le _, hsteady, ?_, hgrown, ?_⟩, by simp [hpos]⟩
    · simp [extend, htext, oldest]
    · simp only [extend, List.length_append]
      omega
  · have hshrunk := text_shrink hgrown
    have hkept := length_shrink hgrown
    have hext : (w.extend added).size = size := hsize
    rw [if_pos (by simp [hsteady, hlast])]
    have htext' : (w.extend added).shrink.text =
        (arrived ++ added).drop ((arrived ++ added).length - size) := by
      rw [← List.rtake, ← rtake_rtake_append, hshrunk, hext]
      simp [List.rtake, extend, htext, oldest, Nat.ne_of_gt hlast]
    refine ⟨⟨by simpa using hext, hsize_pos, ?_, ?_, ?_, hkept, ?_⟩, ?_⟩
    · simp only [List.length_append]
      omega
    · simpa [extend] using hsteady
    · rw [htext', oldest, if_neg (Nat.ne_of_gt hlast)]
    · rw [unchecked_shrink (by omega)]
      simp only [extend, List.length_append]
      omega
    · rw [hkept, htext', hsize]
      simp only [List.length_drop, List.length_append, decide_eq_true_eq]
      omega

/-- A check is let go: it saw everything that has arrived. -/
theorem Tracks.checked (h : w.Tracks size arrived last) (harrived : arrived ≠ []) :
    w.markChecked.completeFirstCheck.Tracks size arrived arrived.length := by
  have hpos := List.length_pos_iff.2 harrived
  obtain ⟨hsize, hsize_pos, hle, hsteady, htext, hlength, hunchecked⟩ := h
  rcases Nat.eq_zero_or_pos last with rfl | hlast
  · have hfirst : w.markChecked.completeFirstCheck =
        { w with isSteady := true, unchecked := 0 }.shrink := by
      simp [completeFirstCheck, markChecked, hsteady]
    have hshrunk := text_shrink (w := { w with isSteady := true, unchecked := 0 }) hlength
    rw [hfirst]
    refine ⟨?_, hsize_pos, Nat.le_refl _, ?_, ?_, length_shrink hlength, ?_⟩
    · simpa using hsize
    · simp [hpos]
    · rw [hshrunk, oldest, if_neg (Nat.ne_of_gt hpos)]
      simp [htext, hsize, oldest]
    · rw [unchecked_shrink (by simpa [hsize] using hsize_pos)]
      simp
  · have hlater : w.markChecked.completeFirstCheck = { w with unchecked := 0 } := by
      simp [completeFirstCheck, markChecked, hsteady, hlast]
    rw [hlater]
    refine ⟨hsize, hsize_pos, Nat.le_refl _, ?_, ?_, hlength, by simp⟩
    · simp [hsteady, hlast, hpos]
    · rw [htext, oldest, oldest, if_neg (Nat.ne_of_gt hlast), if_neg (Nat.ne_of_gt hpos)]

end Window

/-! ### Where the checks stand -/

/-- Where the checks stand of a text that arrives in pieces, after a check at `last`. A tail check
stands at the end of the text. -/
def checkEnds (size : Nat) (tail : Bool) : Nat → Nat → List Nat → List Nat
  | last, total, [] => if tail && decide (last < total) then [total] else []
  | last, total, n :: lengths =>
    if 0 < n ∧ (last = 0 ∨ size ≤ total + n) then
      (total + n) :: checkEnds size tail (total + n) (total + n) lengths
    else checkEnds size tail last (total + n) lengths

/-- The last piece is checked if it makes a check due, or in the tail check. -/
theorem checkEnds_singleton (size : Nat) (tail : Bool) (last total n : Nat) :
    checkEnds size tail last total [n] =
      if (0 < n ∧ (last = 0 ∨ size ≤ total + n)) ∨ tail = true ∧ last < total + n then [total + n]
      else [] := by
  by_cases hdue : 0 < n ∧ (last = 0 ∨ size ≤ total + n)
  · simp [checkEnds, hdue]
  · simp [checkEnds, hdue]

/-- The stretches of the text that the checks see. -/
def spans (size : Nat) : Nat → List Nat → List (Nat × Nat)
  | _, [] => []
  | last, e :: ends => (Window.oldest size last e, e) :: spans size e ends

/-- A stretch of a text. -/
def stretch (text : List Char) (span : Nat × Nat) : List Char := (text.take span.2).drop span.1

/-- Some check sees the character at this place. -/
def IsShown (size : Nat) (ends : List Nat) (i : Nat) : Prop :=
  ∃ span ∈ spans size 0 ends, span.1 ≤ i ∧ i < span.2

section Ends

variable {size last total i : Nat} {tail : Bool} {lengths ends : List Nat}

/-- The checks stand one behind the other, and behind the last one. -/
theorem pairwise_checkEnds (h : last ≤ total) :
    (last :: checkEnds size tail last total lengths).Pairwise (· < ·) := by
  induction lengths generalizing last total with
  | nil =>
    unfold checkEnds
    split
    next hlast =>
      have hlt : last < total := by simpa using (Bool.and_eq_true_iff.1 hlast).2
      simpa using hlt
    · exact List.pairwise_singleton _ _
  | cons n lengths ih =>
    unfold checkEnds
    split
    next hdue =>
      have hlater := ih (Nat.le_refl (total + n))
      refine List.Pairwise.cons (fun e he => ?_) hlater
      rcases List.mem_cons.1 he with rfl | he
      · omega
      · have hlt := List.rel_of_pairwise_cons hlater he
        omega
    · exact ih (Nat.le_add_right_of_le h)

/-- No check stands beyond the text. -/
theorem le_of_mem_checkEnds {e : Nat} (he : e ∈ checkEnds size tail last total lengths) :
    e ≤ total + lengths.sum := by
  induction lengths generalizing last total with
  | nil =>
    unfold checkEnds at he
    split at he
    · simp at he
      simp [he]
    · simp at he
  | cons n lengths ih =>
    rw [List.sum_cons, ← Nat.add_assoc]
    unfold checkEnds at he
    split at he
    · rcases List.mem_cons.1 he with rfl | he
      · exact Nat.le_add_right _ _
      · exact ih he
    · exact ih he

/-- With a tail check, a check stands behind every character that the last one did not reach. -/
theorem exists_checkEnds_gt (hlast : last ≤ i) (hi : i < total + lengths.sum) :
    ∃ e ∈ checkEnds size true last total lengths, i < e := by
  induction lengths generalizing last total with
  | nil =>
    have hlt : last < total := by simpa using Nat.lt_of_le_of_lt hlast hi
    exact ⟨total, by simp [checkEnds, hlt], by simpa using hi⟩
  | cons n lengths ih =>
    rw [List.sum_cons, ← Nat.add_assoc] at hi
    unfold checkEnds
    split
    · rcases Nat.lt_or_ge i (total + n) with hlt | hge
      · exact ⟨total + n, List.mem_cons_self, hlt⟩
      · obtain ⟨e, he, hie⟩ := ih hge hi
        exact ⟨e, List.mem_cons_of_mem _ he, hie⟩
    · exact ih hlast hi

/-! ### Which characters are shown -/

theorem spans_of_pos (size : Nat) (h : (last :: ends).Pairwise (· < ·)) (hlast : 0 < last) :
    spans size last ends = ends.map fun e => (e - size, e) := by
  induction ends generalizing last with
  | nil => rfl
  | cons e ends ih =>
    have hlt : last < e := List.rel_of_pairwise_cons h List.mem_cons_self
    rw [spans, ih h.of_cons (by omega), Window.oldest, if_neg (by omega), List.map_cons]

/-- Before the end of the first check everything is shown, and behind it the newest characters. -/
theorem isShown_cons {e : Nat} (h : (0 :: e :: ends).Pairwise (· < ·)) :
    IsShown size (e :: ends) i ↔ i < e ∨ ∃ b ∈ ends, i < b ∧ b ≤ i + size := by
  have hpos : 0 < e := List.rel_of_pairwise_cons h List.mem_cons_self
  have hspans := spans_of_pos size h.of_cons hpos
  simp only [IsShown, spans, hspans, Window.oldest, if_true, List.mem_cons, List.mem_map]
  constructor
  · rintro ⟨span, rfl | ⟨b, hb, rfl⟩, hlo, hhi⟩
    · exact .inl hhi
    · exact .inr ⟨b, hb, hhi, by omega⟩
  · rintro (hi | ⟨b, hb, hlo, hhi⟩)
    · exact ⟨_, .inl rfl, Nat.zero_le _, hi⟩
    · exact ⟨_, .inr ⟨b, hb, rfl⟩, by omega, hlo⟩

/-- Of the checks behind a place, the first one stands nearest to it. -/
theorem le_of_find?_eq_some {e b : Nat} (h : ends.Pairwise (· < ·))
    (hfind : ends.find? (i < ·) = some e) (hb : b ∈ ends) (hib : i < b) : e ≤ b := by
  induction ends with
  | nil => contradiction
  | cons a ends ih =>
    rw [List.find?_cons] at hfind
    by_cases ha : i < a
    · rw [decide_eq_true ha, Option.some.injEq] at hfind
      subst hfind
      rcases List.mem_cons.1 hb with rfl | hb
      · exact Nat.le_refl _
      · exact Nat.le_of_lt (List.rel_of_pairwise_cons h hb)
    · rw [decide_eq_false ha] at hfind
      rcases List.mem_cons.1 hb with rfl | hb
      · contradiction
      · exact ih h.of_cons hfind hb

/-- A character is shown if the first check behind it is the first one of all, or if few enough
characters stand between the two. -/
theorem isShown_iff {e : Nat} (h : (0 :: ends).Pairwise (· < ·))
    (hfind : ends.find? (i < ·) = some e) :
    IsShown size ends i ↔ ends.head? = some e ∨ e ≤ i + size := by
  have hmem := List.mem_of_find?_eq_some hfind
  have hie : i < e := by simpa using List.find?_some hfind
  cases ends with
  | nil => contradiction
  | cons a ends =>
    rw [isShown_cons h, List.head?_cons, Option.some.injEq]
    constructor
    · rintro (hi | ⟨b, hb, hib, hbi⟩)
      · rw [List.find?_cons, decide_eq_true hi, Option.some.injEq] at hfind
        exact .inl hfind
      · have hle := le_of_find?_eq_some h.of_cons hfind (List.mem_cons_of_mem _ hb) hib
        exact .inr (by omega)
    · rintro (rfl | hle)
      · exact .inl hie
      · rcases List.mem_cons.1 hmem with rfl | hmem
        · exact .inl hie
        · exact .inr ⟨e, hmem, hie, hle⟩

/-- What stands behind a check is shown if no two checks stand too far apart. -/
theorem forall_exists_near_iff {e : Nat} (h : (e :: ends).Pairwise (· < ·))
    (hbound : ∀ b ∈ e :: ends, b ≤ total)
    (hall : ∀ i, e ≤ i → i < total → ∃ b ∈ ends, i < b) :
    (∀ i, e ≤ i → i < total → ∃ b ∈ ends, i < b ∧ b ≤ i + size) ↔
      (e :: ends).IsChain (fun a b => b ≤ a + size) := by
  induction ends generalizing e with
  | nil =>
    refine ⟨fun _ => List.IsChain.singleton _, fun _ i hei hi => ?_⟩
    obtain ⟨b, hb, -⟩ := hall i hei hi
    contradiction
  | cons a ends ih =>
    have hea : e < a := List.rel_of_pairwise_cons h List.mem_cons_self
    have hlater := ih h.of_cons (fun b hb => hbound b (List.mem_cons_of_mem _ hb))
      fun i hai hi => by
        obtain ⟨b, hb, hib⟩ := hall i (by omega) hi
        rcases List.mem_cons.1 hb with rfl | hb
        · omega
        · exact ⟨b, hb, hib⟩
    rw [List.isChain_cons_cons, ← hlater]
    constructor
    · intro hnear
      have hatotal := hbound a (by simp)
      obtain ⟨b, hb, heb, hbe⟩ := hnear e (Nat.le_refl _) (by omega)
      refine ⟨?_, fun i hai hi => ?_⟩
      · rcases List.mem_cons.1 hb with rfl | hb
        · exact hbe
        · have hab := List.rel_of_pairwise_cons h.of_cons hb
          omega
      · obtain ⟨b, hb, hib, hbi⟩ := hnear i (by omega) hi
        rcases List.mem_cons.1 hb with rfl | hb
        · omega
        · exact ⟨b, hb, hib, hbi⟩
    · rintro ⟨hstep, hnear⟩ i hei hi
      rcases Nat.lt_or_ge i a with hia | hai
      · exact ⟨a, List.mem_cons_self, hia, by omega⟩
      · obtain ⟨b, hb, hib⟩ := hnear i hai hi
        exact ⟨b, List.mem_cons_of_mem _ hb, hib⟩

/-- Every character is shown exactly if no two checks stand too far apart. -/
theorem forall_isShown_iff (h : (0 :: ends).Pairwise (· < ·)) (hbound : ∀ b ∈ ends, b ≤ total)
    (hall : ∀ i < total, ∃ b ∈ ends, i < b) :
    (∀ i < total, IsShown size ends i) ↔ ends.IsChain (fun a b => b ≤ a + size) := by
  cases ends with
  | nil =>
    refine ⟨fun _ => List.IsChain.nil, fun _ i hi => ?_⟩
    obtain ⟨b, hb, -⟩ := hall i hi
    contradiction
  | cons e ends =>
    rw [← forall_exists_near_iff h.of_cons hbound fun i hei hi => ?_]
    · constructor
      · intro hshown i hei hi
        rcases (isShown_cons h).1 (hshown i hi) with hlt | hnear
        · omega
        · exact hnear
      · intro hnear i hi
        rcases Nat.lt_or_ge i e with hie | hei
        · exact (isShown_cons h).2 (.inl hie)
        · exact (isShown_cons h).2 (.inr (hnear i hei hi))
    · obtain ⟨b, hb, hib⟩ := hall i hi
      rcases List.mem_cons.1 hb with rfl | hb
      · omega
      · exact ⟨b, hb, hib⟩

end Ends

end ModerationGateway.Stream
