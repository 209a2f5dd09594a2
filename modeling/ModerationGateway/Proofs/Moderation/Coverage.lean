import ModerationGateway.Proofs.Moderation.Delivery
import ModerationGateway.Proofs.Stream.Newest

/-!
# What the checks of a stream see

The text that a stream adds to the answer arrives batch by batch, and the lengths of these pieces
alone decide where the checks stand. A character can leave the window before a check is due, so
that with every tail checked there may still be characters that no check has seen.

* `framesOf`, `textOf`: the frames of a stream, and the text that they add;
* `Round.text`, `Round.settle_tracks`: the text of a round, and what settling it does to the window;
* `roundsOf`, `lengthsOf`: the rounds of a stream that ends, and the lengths of their texts;
* `questions_settleAll`: the questions of a run of rounds, as stretches of the text;
* `tailedEnds`, `drain_coverage`: where the checks of a stream stand, and what they leave out;
* `unseen_narrow`: a stream of which they leave something out.
-/

namespace ModerationGateway.Moderation

open ModerationGateway.Stream

variable {σ : Type} {c : ContentSecurity} {judge : Consult.Judge σ} {s : σ} {q : Request}
  {size last : Nat} {arrived : List Char}

/-! ### Settling a round -/

namespace Round

/-- The text of a round. -/
def text (r : Round) : List Char := r.batch.delta.toList

/-- The text of a round is all that it brings into the window. -/
theorem intake_eq (q : Request) (r : Round) :
    (r.intake q).1.window = (q.window.add r.text).1 ∧ (r.intake q).2 = (q.window.add r.text).2 := by
  cases r with
  | full batch => exact ⟨rfl, rfl⟩
  | last batch => cases batch <;> exact ⟨rfl, rfl⟩

/-- The round is the end of the answer. -/
def isLast : Round → Bool
  | .full _ => false
  | .last _ => true

/-- A round is checked if its text makes a check due, or if it is the end of the answer and the
rule asks for a check of what is left. -/
theorem isChecked_iff (hw : q.window.Tracks size arrived last) (r : Round) :
    r.isChecked c q = true ↔
      (0 < r.text.length ∧ (last = 0 ∨ size ≤ arrived.length + r.text.length)) ∨
        (r.isLast && c.tailCheck) = true ∧ last < arrived.length + r.text.length := by
  obtain ⟨hwindow, hdue⟩ := r.intake_eq q
  obtain ⟨htracks, hadd⟩ := hw.add r.text
  have hunchecked := htracks.unchecked
  rw [List.length_append] at hadd hunchecked
  have htail : r.wantsTail c (r.intake q).1 = true ↔
      (r.isLast && c.tailCheck) = true ∧ last < arrived.length + r.text.length := by
    rw [← hunchecked]
    cases r with
    | full batch => simp [wantsTail, isLast]
    | last batch => simp [wantsTail, isLast, Window.hasUnchecked, hwindow]
  rw [isChecked, Bool.or_eq_true, hdue, hadd, htail]

/-- A round that is let go is asked about if it is checked, and the window shows its text. -/
theorem settle_tracks (hq : q.payload = none) (hw : q.window.Tracks size arrived last) (r : Round)
    {out : List Bytes} (hgo : IsLetGo c judge s (r.settle c q) out) :
    let t := arrived ++ r.text
    ((r.settle c q).exchanges judge s).map Prod.fst =
        (if r.isChecked c q then
          [⟨.content, String.ofList (t.drop (Window.oldest size last t.length))⟩] else []) ∧
      ((r.settle c q).run judge s).1.1.window.Tracks size t
        (if r.isChecked c q then t.length else last) := by
  intro t
  obtain ⟨hwindow, -⟩ := r.intake_eq q
  have htracks := (hw.add r.text).1
  rw [← hwindow] at htracks
  rw [settle_eq hq] at hgo ⊢
  cases hchecked : r.isChecked c q with
  | false => simpa using htracks
  | true =>
    simp only [hchecked, if_true] at hgo ⊢
    -- the only verdict of the round did not refuse
    have hcleared := hgo.cleared _ (by rw [exchanges_check]; exact List.mem_singleton_self _)
    have harrived : t ≠ [] := by
      have hlength : 0 < t.length := by
        rcases (isChecked_iff hw r).1 hchecked with ⟨h, -⟩ | ⟨-, h⟩
        · simp only [t, List.length_append]
          omega
        · simp only [t, List.length_append]
          omega
      exact List.length_pos_iff.1 hlength
    refine ⟨?_, ?_⟩
    · rw [exchanges_check, ← htracks.text_eq]
      rfl
    · rw [run_check, resolve_of_cleared hcleared]
      exact htracks.checked harrived

end Round

/-! ### Settling rounds in order -/

/-- The question about a stretch of a text. -/
def questionOf (text : List Char) (span : Nat × Nat) : Question :=
  ⟨.content, String.ofList (stretch text span)⟩

/-- A stretch that ends where the text had arrived is the end of what had arrived. -/
theorem questionOf_append (arrived rest : List Char) (lo : Nat) :
    questionOf (arrived ++ rest) (lo, arrived.length) =
      ⟨.content, String.ofList (arrived.drop lo)⟩ := by
  simp [questionOf, stretch]

/-- A run of rounds that leaves a request unblocked lets the first round go and then the others. -/
theorem isLetGo_cons (hq : q.payload = none) {r : Round} {rounds : List Round}
    (h : ((settleAll c q (r :: rounds)).run judge s).1.1.payload = none) :
    IsLetGo c judge s (r.settle c q) r.raws ∧
      ((settleAll c ((r.settle c q).run judge s).1.1 rounds).run judge
        ((r.settle c q).run judge s).2).1.1.payload = none := by
  rcases settle_isLetGo_or_isRefused c judge s hq r with hgo | ⟨e, hno⟩
  · rw [settleAll_cons, run_andThen_of_isLetGo hgo] at h
    exact ⟨hgo, h⟩
  · have hrefused : IsRefused c judge s (settleAll c q (r :: rounds)) [] e := hno.andThen
    rw [hrefused.payload] at h
    contradiction

/-- The rounds of a stream that ends. -/
def roundsOf (batches : List Batch) (rest : Option Batch) : List Round :=
  batches.map .full ++ [.last rest]

theorem roundsOf_cons (batch : Batch) (batches : List Batch) (rest : Option Batch) :
    roundsOf (batch :: batches) rest = .full batch :: roundsOf batches rest := rfl

/-- The lengths of the pieces in which the text arrives. -/
def lengthsOf (rounds : List Round) : List Nat := rounds.map fun r => r.text.length

theorem lengthsOf_cons (r : Round) (rounds : List Round) :
    lengthsOf (r :: rounds) = r.text.length :: lengthsOf rounds := rfl

/-- The questions of a run of rounds are about the stretches that the lengths of the texts say. -/
theorem questions_settleAll (hq : q.payload = none) (hw : q.window.Tracks size arrived last)
    (batches : List Batch) (rest : Option Batch)
    (h : ((settleAll c q (roundsOf batches rest)).run judge s).1.1.payload = none) :
    ((settleAll c q (roundsOf batches rest)).exchanges judge s).map Prod.fst =
      (spans size last (checkEnds size c.tailCheck last arrived.length
        (lengthsOf (roundsOf batches rest)))).map
        (questionOf (arrived ++ (roundsOf batches rest).flatMap Round.text)) := by
  induction batches generalizing q s arrived last with
  | nil =>
    obtain ⟨hgo, -⟩ := isLetGo_cons hq h
    obtain ⟨hquestions, -⟩ := (Round.last rest).settle_tracks hq hw hgo
    have hchecked := (Round.last rest).isChecked_iff (c := c) hw
    simp only [Round.isLast, Bool.true_and] at hchecked
    rw [roundsOf, List.map_nil, List.nil_append, settleAll_cons,
      exchanges_andThen_of_isLetGo hgo, settleAll_nil, Consult.exchanges_done, List.append_nil,
      hquestions, lengthsOf, List.map_singleton, checkEnds_singleton, List.flatMap_singleton]
    simp only [← hchecked]
    split
    · have hquestion := questionOf_append (arrived ++ (Round.last rest).text) []
      rw [List.append_nil] at hquestion
      rw [spans, spans, List.map_singleton, ← List.length_append, hquestion]
    · rfl
  | cons batch batches ih =>
    obtain ⟨hgo, hrest⟩ := isLetGo_cons hq h
    obtain ⟨hquestions, htracks⟩ := (Round.full batch).settle_tracks hq hw hgo
    have hlater := ih hgo.payload htracks hrest
    have hchecked := (Round.full batch).isChecked_iff (c := c) hw
    simp only [Round.isLast, Bool.false_and, Bool.false_eq_true, false_and, or_false] at hchecked
    rw [roundsOf_cons, settleAll_cons, exchanges_andThen_of_isLetGo hgo, List.map_append,
      hquestions, hlater, lengthsOf_cons, checkEnds, List.flatMap_cons,
      ← List.append_assoc]
    simp only [← hchecked]
    split
    · rw [spans, List.map_cons, List.length_append, ← List.length_append, questionOf_append]
      rfl
    · rw [List.length_append]
      rfl

/-! ### The text of a stream -/

/-- The frames of a stream that ends. -/
def framesOf (chunks : List Bytes) : List Frame :=
  (Assembler.empty.feedAll chunks).2 ++
    (Assembler.empty.feedAll chunks).1.finish.2.frame.toList

/-- The text that a stream adds to the answer. -/
def textOf (chunks : List Bytes) : List Char := (Batch.delta (framesOf chunks)).toList

theorem toList_delta_append (a b : Batch) :
    (Batch.delta (a ++ b)).toList = (Batch.delta a).toList ++ (Batch.delta b).toList := by
  simp [Batch.delta]

theorem flatMap_text_full (batches : List Batch) :
    (batches.map Round.full).flatMap Round.text = (Batch.delta batches.flatten).toList := by
  induction batches with
  | nil => rfl
  | cons batch batches ih =>
    rw [List.map_cons, List.flatMap_cons, ih, List.flatten_cons, toList_delta_append]
    rfl

namespace Course

/-- The rounds of a stream that ends are its frames in groups. -/
theorem rounds_of_chunks (c : ContentSecurity) (chunks : List Bytes) :
    (ofArrivals c (chunks.map .chunk)).rounds =
      roundsOf ((Batcher.ofSize c.batchSize.toNat).pushAll (framesOf chunks)).2
        ((Batcher.ofSize c.batchSize.toNat).pushAll (framesOf chunks)).1.finish.2 := by
  have hcourse := of_chunks .empty (.ofSize c.batchSize.toNat) chunks []
  rw [List.append_nil] at hcourse
  rw [ofArrivals, hcourse]
  simp only [of, roundsOf, framesOf, Batcher.pushAll_append, List.map_append, List.append_assoc]

/-- The texts of the rounds are the text of the stream. -/
theorem flatMap_text (c : ContentSecurity) (chunks : List Bytes) :
    (ofArrivals c (chunks.map .chunk)).rounds.flatMap Round.text = textOf chunks := by
  have hframes := (Batcher.ofSize c.batchSize.toNat).flatten_pushAll (framesOf chunks)
  rw [Batcher.queue_ofSize, List.nil_append, ← Batcher.getD_finish] at hframes
  have htext := congrArg (fun frames => (Batch.delta frames).toList) hframes
  rw [toList_delta_append] at htext
  rw [rounds_of_chunks, roundsOf, List.flatMap_append, flatMap_text_full, List.flatMap_singleton]
  exact htext

end Course

/-! ### What the checks of a stream leave out -/

namespace Interceptor

/-- Where the checks of a stream stand that wants its tail checked, as the batches say. -/
def tailedEnds (c : ContentSecurity) (chunks : List Bytes) : List Nat :=
  checkEnds (max c.windowSize.toNat 1) true 0 0
    (lengthsOf (Course.ofArrivals c (chunks.map .chunk)).rounds)

/-- In a stream that is not refused, a check stands behind every character. It sees the character
if it is the first check of all, or if the character is still among the newest ones. All are seen
exactly if no two checks stand farther apart than the window is wide. -/
theorem drain_coverage (c : ContentSecurity) (guard : Guard) (chunks : List Bytes)
    (judge : Consult.Judge σ) (s : σ) (htail : c.tailCheck = true)
    (hunblocked : ((drain c (attach c guard) (chunks.map .chunk)).run judge
      s).1.2.request.isBlocked = false) :
    let size := max c.windowSize.toNat 1
    let ends := tailedEnds c chunks
    ((drain c (attach c guard) (chunks.map .chunk)).exchanges judge s).map Prod.fst =
        (spans size 0 ends).map (questionOf (textOf chunks)) ∧
      (∀ i < (textOf chunks).length, ∃ e, ends.find? (i < ·) = some e ∧
        (IsShown size ends i ↔ ends.head? = some e ∨ e ≤ i + size)) ∧
      ((∀ i < (textOf chunks).length, IsShown size ends i) ↔
        ends.IsChain fun a b => b ≤ a + size) := by
  intro size ends
  obtain ⟨-, hrequest, -, -⟩ := run_drain c guard (chunks.map .chunk) judge s
  have hexchanges := exchanges_drain c guard (chunks.map .chunk) judge s
  have hrounds := Course.rounds_of_chunks c chunks
  have htext := Course.flatMap_text c chunks
  have hlength : (lengthsOf (Course.ofArrivals c (chunks.map .chunk)).rounds).sum =
      (textOf chunks).length := by
    rw [← htext, List.length_flatMap]
    rfl
  have hsorted : (0 :: ends).Pairwise (· < ·) := pairwise_checkEnds (Nat.le_refl 0)
  have hbound : ∀ e ∈ ends, e ≤ (textOf chunks).length := by
    intro e he
    have hle := le_of_mem_checkEnds he
    rwa [hlength, Nat.zero_add] at hle
  have hall : ∀ i < (textOf chunks).length, ∃ e ∈ ends, i < e := by
    intro i hi
    refine exists_checkEnds_gt (Nat.zero_le i) ?_
    rwa [hlength, Nat.zero_add]
  refine ⟨?_, fun i hi => ?_, forall_isShown_iff hsorted hbound hall⟩
  · rw [hrequest, Request.isBlocked_eq_false_iff, settled, hrounds] at hunblocked
    have hquestions := questions_settleAll rfl (Window.tracks_ofSize c.windowSize.toNat) _ _
      hunblocked
    rw [← hrounds, htext, htail] at hquestions
    rw [hexchanges]
    exact hquestions
  · obtain ⟨b, hb, hib⟩ := hall i hi
    cases hfind : ends.find? (i < ·) with
    | none =>
      have hnot := List.find?_eq_none.1 hfind b hb
      simp [hib] at hnot
    | some e => exact ⟨e, rfl, isShown_iff hsorted hfind⟩

theorem drain_coverage_cutChunks :
    openSettings.tailCheck = true ∧
      ((drain openSettings (attach openSettings ⟨0, false⟩) (cutChunks.map .chunk)).run
        passOnce 0).1.2.request.isBlocked = false ∧
      ∀ i < (textOf cutChunks).length, IsShown 3 [3, 5] i := by
  have hends : tailedEnds openSettings cutChunks = [3, 5] := by decide +kernel
  have hunblocked : ((drain openSettings (attach openSettings ⟨0, false⟩)
      (cutChunks.map .chunk)).run passOnce 0).1.2.request.isBlocked = false := by
    decide +kernel
  obtain ⟨-, -, hshown⟩ :=
    drain_coverage openSettings ⟨0, false⟩ cutChunks passOnce 0 rfl hunblocked
  rw [hends] at hshown
  exact ⟨rfl, hunblocked, hshown.2 (by decide)⟩

/-- A window of one character, and a check of the end. -/
def narrowSettings : ContentSecurity :=
  { ContentSecurity.ofVendor "scripted" "http://checker" with
    batchSize := 1, windowSize := 1, tailCheck := true }

/-- One character arrives, and then two at once. -/
def narrowChunks : List Bytes := [deltaEvent "a", deltaEvent "xy"]

/-- A checker that lets everything pass. -/
def passAll : Consult.Judge Unit := fun _ _ => (.pass, ())

/-- Of the two characters that arrive at once only the newer one is still in the window when it is
checked. -/
theorem unseen_narrow :
    narrowSettings.tailCheck = true ∧
      ((drain narrowSettings (attach narrowSettings ⟨0, false⟩) (narrowChunks.map .chunk)).run
        passAll ()).1.2.request.isBlocked = false ∧
      ¬ ∀ ch ∈ textOf narrowChunks,
        ∃ x ∈ (drain narrowSettings (attach narrowSettings ⟨0, false⟩)
          (narrowChunks.map .chunk)).exchanges passAll (), ch ∈ x.1.text.toList := by
  have htext : textOf narrowChunks = ['a', 'x', 'y'] := by decide +kernel
  have hexchanges : (drain narrowSettings (attach narrowSettings ⟨0, false⟩)
      (narrowChunks.map .chunk)).exchanges passAll () =
        [(⟨.content, "a"⟩, .pass), (⟨.content, "y"⟩, .pass)] := by
    decide +kernel
  refine ⟨rfl, by decide +kernel, fun hseen => ?_⟩
  rw [htext, hexchanges] at hseen
  obtain ⟨x, hx, hmem⟩ := hseen 'x' (by simp)
  rcases List.mem_cons.1 hx with rfl | hx
  · simp at hmem
  · rw [List.mem_singleton.1 hx] at hmem
    simp at hmem

end Interceptor

end ModerationGateway.Moderation
