import ModerationGateway.Proofs.Stream.Newest
import ModerationGateway.Proofs.Text.Boundary

/-!
# A window and its history

Text arrives in a window, is marked as checked, and the first check is completed, in any order and
any number of times. At every moment the window can be told from these moves: which characters it
holds, how many of them are not checked yet, and whether the next text makes a check due.

* `Move`, `move`, `run`: what can happen to a window, and a new window after some moves;
* `arrived`, `sinceMark`: all text that has come in, and what happened since the last mark;
* `Recalls`: a window agrees with the moves that led to it;
* `Recalls.add`, `Recalls.markChecked`, `Recalls.completeFirstCheck`, `recalls_run`: every move
  keeps this, and so does a run;
* `contents_run`: what a window holds, and that no character is ever split;
* `flags_run`: when a check is due, and what is not checked yet.
-/

namespace ModerationGateway.Stream.Window

/-- What can happen to a window. -/
inductive Move where
  | add (text : List Char)
  | markChecked
  | completeFirstCheck
  deriving DecidableEq, Repr

/-- The text that comes in with a move. -/
def Move.text : Move → List Char
  | add text => text
  | markChecked => []
  | completeFirstCheck => []

/-- Make a move. -/
def move (w : Window) : Move → Window
  | .add text => (w.add text).1
  | .markChecked => w.markChecked
  | .completeFirstCheck => w.completeFirstCheck

/-- A new window after some moves. -/
def run (size : Nat) (moves : List Move) : Window := moves.foldl move (.ofSize size)

@[simp] theorem run_append_singleton (size : Nat) (moves : List Move) (m : Move) :
    run size (moves ++ [m]) = (run size moves).move m := by
  simp [run]

/-! ### What the moves tell -/

/-- All text that has come in. -/
def arrived (moves : List Move) : List Char := moves.flatMap Move.text

/-- The moves since the text was last marked as checked. -/
def sinceMark (moves : List Move) : List Move := moves.rtakeWhile (· ≠ .markChecked)

/-- What a window of a size holds: everything before the first check is complete, and the newest
characters afterwards. -/
def held (size : Nat) (moves : List Move) : List Char :=
  if .completeFirstCheck ∈ moves then (arrived moves).rtake size else arrived moves

variable {size : Nat} {moves : List Move} {w : Window}

@[simp] theorem arrived_append_singleton (moves : List Move) (m : Move) :
    arrived (moves ++ [m]) = arrived moves ++ m.text := by
  simp [arrived]

theorem sinceMark_append_singleton (moves : List Move) (m : Move) :
    sinceMark (moves ++ [m]) = if m = .markChecked then [] else sinceMark moves ++ [m] := by
  rw [sinceMark, List.rtakeWhile_concat]
  by_cases hm : m = .markChecked <;> simp [hm, sinceMark]

/-! ### Moves, one at a time -/

/-- The number of unchecked characters is capped by what the window holds, also when it shrinks. -/
theorem unchecked_shrink_eq {n : Nat} (h : w.unchecked = min n w.length) :
    w.shrink.unchecked = min n w.shrink.length := by
  unfold shrink
  split
  · exact h
  · dsimp only
    omega

theorem text_shrink_eq_rtake (hlength : w.length = w.text.length) :
    w.shrink.text = w.text.rtake w.size := text_shrink hlength

/-- A window agrees with the moves that led to it. -/
structure Recalls (w : Window) (size : Nat) (moves : List Move) : Prop where
  size_eq : w.size = size
  steady : w.isSteady = decide (.completeFirstCheck ∈ moves)
  text_eq : w.text = held size moves
  length_eq : w.length = w.text.length
  unchecked_eq : w.unchecked = min (arrived (sinceMark moves)).length w.length

theorem recalls_ofSize (size : Nat) : (ofSize size).Recalls (max size 1) [] :=
  ⟨rfl, rfl, rfl, rfl, rfl⟩

theorem held_append_add (size : Nat) (moves : List Move) (added : List Char) :
    held size (moves ++ [.add added]) =
      if .completeFirstCheck ∈ moves then (held size moves ++ added).rtake size
      else held size moves ++ added := by
  by_cases hfirst : .completeFirstCheck ∈ moves
  · simp [held, hfirst, Move.text, rtake_rtake_append]
  · simp [held, hfirst, Move.text]

/-- Text comes in. -/
theorem Recalls.add (h : w.Recalls size moves) (added : List Char) :
    (w.add added).1.Recalls size (moves ++ [.add added]) := by
  have hgrown : (w.extend added).length = (w.extend added).text.length := by
    simp [extend, h.length_eq]
  have hsteady : w.isSteady = decide (.completeFirstCheck ∈ moves ++ [.add added]) := by
    simp [h.steady]
  have hunchecked : (w.extend added).unchecked =
      min (arrived (sinceMark (moves ++ [.add added]))).length (w.extend added).length := by
    simp only [sinceMark_append_singleton, reduceCtorEq, if_false, arrived_append_singleton,
      Move.text, List.length_append, extend, h.unchecked_eq]
    omega
  by_cases hadded : added = []
  · subst hadded
    have hsame : w.extend [] = w := by simp [extend]
    rw [hsame] at hunchecked
    refine ⟨h.size_eq, hsteady, ?_, h.length_eq, hunchecked⟩
    rw [add_nil, held_append_add, List.append_nil, h.text_eq]
    by_cases hfirst : .completeFirstCheck ∈ moves
    · have hkept := rtake_rtake_append (arrived moves) [] size
      simp only [List.append_nil] at hkept
      simp [held, hfirst, hkept]
    · simp [hfirst]
  rw [add_of_ne_nil hadded]
  by_cases hfirst : .completeFirstCheck ∈ moves
  · rw [if_pos (by simpa [hfirst] using h.steady)]
    refine ⟨(size_shrink _).trans h.size_eq, (isSteady_shrink _).trans hsteady, ?_,
      length_shrink hgrown, unchecked_shrink_eq hunchecked⟩
    rw [text_shrink_eq_rtake hgrown, held_append_add, if_pos hfirst, ← h.text_eq, ← h.size_eq]
    rfl
  · rw [if_neg (by simpa [hfirst] using h.steady)]
    refine ⟨h.size_eq, hsteady, ?_, hgrown, hunchecked⟩
    rw [held_append_add, if_neg hfirst, ← h.text_eq]
    rfl

/-- What has come in counts as checked. -/
theorem Recalls.markChecked (h : w.Recalls size moves) :
    w.markChecked.Recalls size (moves ++ [.markChecked]) := by
  refine ⟨h.size_eq, ?_, ?_, h.length_eq, ?_⟩
  · show w.isSteady = _
    simpa using h.steady
  · simpa [held, Move.text] using h.text_eq
  · simp [sinceMark_append_singleton, arrived, Window.markChecked]

/-- The first check is complete. What does not fit any more is dropped. -/
theorem Recalls.completeFirstCheck (h : w.Recalls size moves) :
    w.completeFirstCheck.Recalls size (moves ++ [.completeFirstCheck]) := by
  have hunchecked : w.unchecked =
      min (arrived (sinceMark (moves ++ [.completeFirstCheck]))).length w.length := by
    simpa [sinceMark_append_singleton, Move.text] using h.unchecked_eq
  have hheld : held size (moves ++ [.completeFirstCheck]) = (arrived moves).rtake size := by
    simp [held, Move.text]
  unfold Window.completeFirstCheck
  by_cases hfirst : .completeFirstCheck ∈ moves
  · rw [if_pos (by simpa [hfirst] using h.steady)]
    refine ⟨h.size_eq, by simpa [hfirst] using h.steady, ?_, h.length_eq, hunchecked⟩
    rw [hheld, h.text_eq, held, if_pos hfirst]
  · rw [if_neg (by simpa [hfirst] using h.steady)]
    refine ⟨by simpa using h.size_eq, by simp, ?_, length_shrink h.length_eq,
      unchecked_shrink_eq hunchecked⟩
    rw [text_shrink_eq_rtake (w := { w with isSteady := true }) h.length_eq, hheld]
    dsimp only
    rw [h.text_eq, h.size_eq, held, if_neg hfirst]

theorem Recalls.move (h : w.Recalls size moves) (m : Move) :
    (w.move m).Recalls size (moves ++ [m]) := by
  cases m with
  | add text => exact h.add text
  | markChecked => exact h.markChecked
  | completeFirstCheck => exact h.completeFirstCheck

/-- A new window agrees with whatever moves it has seen. -/
theorem recalls_run (size : Nat) (moves : List Move) :
    (run size moves).Recalls (max size 1) moves := by
  induction moves using List.reverseRecOn with
  | nil => exact recalls_ofSize size
  | append_singleton moves m ih =>
    rw [run_append_singleton]
    exact ih.move m

/-! ### What a window holds -/

/-- The window counts what it holds. -/
theorem Recalls.length_eq_ite (h : w.Recalls size moves) :
    w.length = if .completeFirstCheck ∈ moves then min size (arrived moves).length
      else (arrived moves).length := by
  rw [h.length_eq, h.text_eq, held]
  split
  · rw [List.rtake, List.length_drop]
    omega
  · rfl

/-- What a window holds after a move is the end of what it held before and of what came in. -/
theorem text_move_suffix (w : Window) (m : Move) : (w.move m).text <:+ w.text ++ m.text := by
  have hshrink (w : Window) : w.shrink.text <:+ w.text := by
    unfold shrink
    split
    · exact List.suffix_rfl
    · exact List.drop_suffix _ _
  cases m with
  | add text =>
    by_cases htext : text = []
    · subst htext
      exact (List.append_nil w.text).symm ▸ List.suffix_rfl
    · rw [move, add_of_ne_nil htext]
      split
      · exact hshrink (w.extend text)
      · exact List.suffix_rfl
  | markChecked => exact (List.append_nil w.text).symm ▸ List.suffix_rfl
  | completeFirstCheck =>
    rw [Move.text, List.append_nil, move, completeFirstCheck]
    split
    · exact List.suffix_rfl
    · exact hshrink { w with isSteady := true }

/-- A window has what a text, held as bytes, is cut to by counting characters, and no character is
split. -/
def IsCutFrom (text : List Char) (w : Window) : Prop :=
  let bytes := Utf8.encode text
  let cut := Utf8.charStart bytes (text.length - w.length)
  Utf8.IsBoundary bytes cut ∧ Utf8.encode w.text = bytes.drop cut

theorem Recalls.isCutFrom (h : w.Recalls size moves) (m : Move) :
    IsCutFrom (w.text ++ m.text) (w.move m) := by
  refine ⟨Utf8.isBoundary_charStart_encode _ _, ?_⟩
  rw [Utf8.drop_charStart_encode, (h.move m).length_eq]
  exact congrArg _ (List.suffix_iff_eq_drop.1 (w.text_move_suffix m))

/-- After any moves a window holds everything that has come in, or the newest characters once the
first check is complete, never more than fit. It counts them right, and what a move drops from the
bytes of the text ends where a character ends. -/
theorem contents_run (size : Nat) (moves : List Move) :
    let w := run size moves
    let width := max size 1
    w.text = (if .completeFirstCheck ∈ moves then (arrived moves).rtake width
      else arrived moves) ∧
    w.length = w.text.length ∧
    (.completeFirstCheck ∈ moves → w.length ≤ width) ∧
    ∀ m : Move, IsCutFrom (w.text ++ m.text) (w.move m) := by
  intro w width
  have h : w.Recalls width moves := recalls_run size moves
  refine ⟨h.text_eq, h.length_eq, fun hfirst => ?_, h.isCutFrom⟩
  rw [h.length_eq_ite, if_pos hfirst]
  exact Nat.min_le_left _ _

example : (run 3 [.add ['a', 'b', '€', 'c'], .completeFirstCheck, .add ['d']]).text =
    ['€', 'c', 'd'] := by
  decide

/-! ### Checks -/

/-- Text makes a check due unless there is none. Once the first check is complete, the window has to
be full with all that has come in. -/
theorem Recalls.due_iff (h : w.Recalls size moves) (text : List Char) :
    (w.add text).2 = true ↔
      text ≠ [] ∧ (.completeFirstCheck ∉ moves ∨ size ≤ (arrived moves ++ text).length) := by
  by_cases htext : text = []
  · simp [htext]
  by_cases hfirst : .completeFirstCheck ∈ moves
  · have hsteady : w.isSteady = true := by simpa [hfirst] using h.steady
    have hlength := (h.add text).length_eq_ite
    rw [if_pos (List.mem_append_left _ hfirst), arrived_append_singleton, Move.text] at hlength
    rw [add_of_ne_nil htext, if_pos hsteady] at hlength ⊢
    dsimp only at hlength ⊢
    rw [hlength, h.size_eq, decide_eq_true_eq]
    simp only [htext, hfirst, not_true, false_or, ne_eq, not_false_eq_true, true_and]
    omega
  · have hsteady : w.isSteady = false := by simpa [hfirst] using h.steady
    simp [add_of_ne_nil htext, hsteady, hfirst, htext]

/-- Some text has come in exactly if a text that is not empty has. -/
theorem arrived_ne_nil_iff : arrived moves ≠ [] ↔ ∃ text, .add text ∈ moves ∧ text ≠ [] := by
  constructor
  · intro h
    obtain ⟨c, hc⟩ := List.exists_mem_of_ne_nil _ h
    obtain ⟨m, hm, hcm⟩ := List.mem_flatMap.1 hc
    cases m with
    | add text => exact ⟨text, hm, List.ne_nil_of_mem hcm⟩
    | markChecked => contradiction
    | completeFirstCheck => contradiction
  · rintro ⟨text, hm, htext⟩ hnil
    exact htext (List.flatMap_eq_nil_iff.1 hnil _ hm)

/-- Some text is unchecked exactly if some has come in since the last mark. -/
theorem Recalls.hasUnchecked_iff (h : w.Recalls size moves) (hsize : 0 < size) :
    w.hasUnchecked = true ↔ ∃ text, .add text ∈ sinceMark moves ∧ text ≠ [] := by
  rw [← arrived_ne_nil_iff, ← List.length_pos_iff, hasUnchecked, decide_eq_true_eq,
    h.unchecked_eq, Nat.lt_min]
  refine and_iff_left_of_imp fun hsince => ?_
  -- what has come in since the mark has come in, and some of it is still held
  obtain ⟨text, hmem, htext⟩ := arrived_ne_nil_iff.1 (List.length_pos_iff.1 hsince)
  have hmoves : .add text ∈ moves := (List.rtakeWhile_suffix _ _).subset hmem
  have hpos := List.length_pos_iff.2 (arrived_ne_nil_iff.2 ⟨text, hmoves, htext⟩)
  rw [h.length_eq_ite]
  split <;> omega

/-- After any moves, the next text makes a check due if it is not empty, and if the first check is
not complete or all that has come in fills the window. Unchecked is what has come in since the last
mark, as far as it is still held, and there is some exactly if text has come in since. -/
theorem flags_run (size : Nat) (moves : List Move) :
    let w := run size moves
    (∀ text, (w.add text).2 = true ↔
      text ≠ [] ∧
        (.completeFirstCheck ∉ moves ∨ max size 1 ≤ (arrived moves ++ text).length)) ∧
    w.unchecked = min (arrived (sinceMark moves)).length w.length ∧
    (w.hasUnchecked = true ↔ ∃ text, .add text ∈ sinceMark moves ∧ text ≠ []) := by
  intro w
  have h : w.Recalls (max size 1) moves := recalls_run size moves
  have hsize : 0 < max size 1 := by omega
  exact ⟨h.due_iff, h.unchecked_eq, h.hasUnchecked_iff hsize⟩

end ModerationGateway.Stream.Window
