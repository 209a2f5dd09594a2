import ModerationGateway.Proofs.Moderation.Cadence
import ModerationGateway.Proofs.Moderation.Outcome
import ModerationGateway.Text.Occurs

/-!
# What stands across batches

A text that a checker looks for may come in pieces. The window is there so that such a text is seen
as a whole: of a batch that is checked it shows the batch and what stood in front of it, as far
back as the window is wide.

* `EndsIn`: an occurrence of a text ends in the newest piece of what has arrived;
* `Round.infix_window_intake`: the window shows the occurrence;
* `settleAll_follows`: the window of a run of rounds follows their texts;
* `IsStoppedIn`: a stream is refused at one of some rounds, and what a client has then;
* `stream_isStoppedIn`: a stream is refused no later than where the occurrence ends.
-/

namespace ModerationGateway.Moderation

open ModerationGateway.Stream

variable {σ : Type} {c : ContentSecurity} {judge : Consult.Judge σ} {s : σ} {q : Request}
  {size last : Nat} {arrived needle : List Char}

namespace Consult

/-- What a run of a computation that goes on asks begins with what its first part asks. -/
theorem exchanges_prefix_andThen (judge : Judge σ) (s : σ) (m : Consult (Request × List Bytes))
    (next : Request → Consult (Request × List Bytes)) :
    m.exchanges judge s <+: (andThen m next).exchanges judge s := by
  rw [andThen_eq, exchanges_bind]
  exact List.prefix_append _ _

/-- The verdicts of a run are the judge's. -/
theorem exists_judge_of_mem {α : Type} {m : Consult α} {x : Exchange}
    (h : x ∈ m.exchanges judge s) : ∃ s', x.2 = (judge s' x.1).1 := by
  induction m generalizing s with
  | done a => simp at h
  | ask question next ih =>
    rw [exchanges_ask] at h
    rcases List.mem_cons.1 h with rfl | h
    · exact ⟨s, rfl⟩
    · exact ih _ h

end Consult

/-! ### Occurrences -/

/-- In a text that has arrived and one more piece, an occurrence of the needle ends in the piece. -/
def EndsIn (needle arrived piece : List Char) : Prop :=
  ∃ front, front ++ needle <+: arrived ++ piece ∧ arrived.length < (front ++ needle).length

namespace EndsIn

variable {piece : List Char}

theorem ne_nil (h : EndsIn needle arrived piece) : piece ≠ [] := by
  rintro rfl
  obtain ⟨front, hfront, hlength⟩ := h
  have hle := hfront.length_le
  rw [List.append_nil] at hle
  omega

/-- The occurrence is still there if the front of the text is dropped, up to where the needle must
have begun. -/
theorem infix_drop (h : EndsIn needle arrived piece) {n : Nat}
    (hn : n = 0 ∨ n + needle.length ≤ arrived.length + 1) :
    needle <:+: (arrived ++ piece).drop n := by
  obtain ⟨front, ⟨back, hback⟩, hlength⟩ := h
  rw [List.length_append] at hlength
  have hle : n ≤ front.length := by omega
  refine ⟨front.drop n, back, ?_⟩
  rw [← hback, List.append_assoc, List.append_assoc, List.drop_append_of_le_length hle]

end EndsIn

/-! ### The window of a round -/

namespace Round

/-- The first text is seen as a whole. Later a needle is seen that fits into the window together
with the text in which it ends. -/
theorem infix_window_intake (hw : q.window.Follows size arrived last) {r : Round}
    (h : EndsIn needle arrived r.text)
    (hwide : arrived = [] ∨
      size ≤ (arrived ++ r.text).length ∧ r.text.length + needle.length - 1 ≤ size) :
    r.isChecked c q = true ∧ needle <:+: (r.intake q).1.window.text := by
  refine ⟨(isChecked_iff_of_follows hw r).2 (.inl ⟨h.ne_nil, hwide.imp_right And.left⟩), ?_⟩
  rw [text_window_intake hw]
  split
  next => exact h.infix_drop (.inl rfl)
  next hlast =>
    have harrived : arrived ≠ [] := fun hnil => hlast (hw.last_eq_zero_iff.2 hnil)
    obtain ⟨hfull, hfits⟩ := hwide.resolve_left harrived
    rw [List.length_append] at hfull ⊢
    have hpos := List.length_pos_iff.2 harrived
    exact h.infix_drop (.inr (by omega))

/-- A round is refused if it is checked and the verdict on the window refuses. -/
theorem isBlocked_settle (hq : q.payload = none) {r : Round} (hchecked : r.isChecked c q = true)
    (h : (judge s (windowQuestion (r.intake q).1)).1.refusal? c.failurePolicy ≠ none) :
    ((r.settle c q).run judge s).1.1.isBlocked = true := by
  rcases settle_isLetGo_or_isRefused c judge s hq r with hgo | ⟨e, hno⟩
  · have hcleared := hgo.cleared
    rw [exchanges_settle hq, if_pos hchecked] at hcleared
    exact absurd (hcleared _ (List.mem_singleton_self _)) h
  · simp [Request.isBlocked, hno.payload]

end Round

/-! ### The window of a run -/

/-- The window of a request that rounds leave unblocked follows their texts. -/
theorem settleAll_follows (hq : q.payload = none) (hw : q.window.Follows size arrived last)
    (rounds : List Round) (h : ((settleAll c q rounds).run judge s).1.1.payload = none) :
    ∃ last, ((settleAll c q rounds).run judge s).1.1.window.Follows size
      (arrived ++ rounds.flatMap Round.text) last := by
  induction rounds generalizing q s arrived last with
  | nil =>
    rw [List.flatMap_nil, List.append_nil]
    exact ⟨last, hw⟩
  | cons r rounds ih =>
    obtain ⟨hgo, hrest⟩ := isLetGo_cons hq h
    obtain ⟨last', hfollows⟩ := ih hgo.payload (r.settle_follows hq hw hgo) hrest
    refine ⟨last', ?_⟩
    rw [settleAll_cons, run_andThen_of_isLetGo hgo, List.flatMap_cons, ← List.append_assoc]
    exact hfollows

/-- What is asked about a round is part of what a run asks, if the rounds before it are let go. -/
theorem mem_exchanges_settleAll (hq : q.payload = none) {before : List Round}
    (h : ((settleAll c q before).run judge s).1.1.payload = none) {r : Round} (after : List Round)
    {x : Exchange}
    (hx : x ∈ (r.settle c ((settleAll c q before).run judge s).1.1).exchanges judge
      ((settleAll c q before).run judge s).2) :
    x ∈ (settleAll c q (before ++ r :: after)).exchanges judge s := by
  rw [settleAll_append c (Request.isBlocked_eq_false_iff.2 hq),
    exchanges_andThen_of_isLetGo (isLetGo_settleAll hq h), settleAll_cons]
  exact List.mem_append_right _ ((Consult.exchanges_prefix_andThen judge _ _ _).subset hx)

/-- A needle that ends in a round is found there, if it stands in the first text or fits into the
window together with the text of the round. -/
theorem refusedAfter_of_endsIn (hq : q.payload = none) (hw : q.window.Follows size arrived last)
    {before after : List Round} {r : Round}
    (hbefore : ((settleAll c q before).run judge s).1.1.isBlocked = false)
    (hspots : ∀ x ∈ (settleAll c q (before ++ r :: after)).exchanges judge s,
      needle <:+: x.1.text.toList → ∃ reason vendor, x.2 = .block reason vendor)
    (hends : EndsIn needle (arrived ++ before.flatMap Round.text) r.text)
    (hwide : arrived ++ before.flatMap Round.text = [] ∨
      size ≤ (arrived ++ before.flatMap Round.text ++ r.text).length ∧
        r.text.length + needle.length - 1 ≤ size) :
    RefusedAfter c judge q s before r := by
  have hpayload := Request.isBlocked_eq_false_iff.1 hbefore
  obtain ⟨last', hfollows⟩ := settleAll_follows hq hw before hpayload
  obtain ⟨hchecked, hinfix⟩ := Round.infix_window_intake (c := c) hfollows hends hwide
  -- the question about this round is one of the run
  have hasked := fun x => mem_exchanges_settleAll (x := x) (r := r) hq hpayload after
  rw [Round.exchanges_settle hpayload, if_pos hchecked] at hasked
  obtain ⟨reason, vendor, hblock⟩ := hspots _ (hasked _ (List.mem_singleton_self _))
    (by simpa [windowQuestion] using hinfix)
  refine ⟨hbefore, Round.isBlocked_settle hpayload hchecked ?_⟩
  dsimp only at hblock
  rw [hblock]
  simp [Verdict.refusal?]

/-! ### The end of the stream -/

namespace Interceptor

/-- A stream is refused at one of some rounds. A client has the pieces of those before that round,
and the envelope. -/
def IsStoppedIn (c : ContentSecurity) (guard : Guard) (chunks : List Bytes)
    (failure : Option String) (judge : Consult.Judge σ) (s : σ) (rounds : List Round) : Prop :=
  ∃ earlier r later payload, rounds = earlier ++ r :: later ∧
    RefusedAt c guard judge s earlier r ∧
    ((stream c guard chunks failure).run judge s).1.2.request.payload = some payload ∧
    ((stream c guard chunks failure).run judge s).1.1 =
      (earlier.flatMap Round.raws).map .ok ++ [.ok payload]

section Run

variable (c : ContentSecurity) (guard : Guard) (chunks : List Bytes) (failure : Option String)
  (judge : Consult.Judge σ) (s : σ)

/-- A round that is refused stops the stream. -/
theorem isStoppedIn_of_refusedAt {earlier later after : List Round} {r : Round}
    (hrounds : (Course.ofArrivals c (arrivalsOf chunks failure)).rounds =
      earlier ++ r :: (later ++ after))
    (hr : RefusedAt c guard judge s earlier r) :
    IsStoppedIn c guard chunks failure judge s (earlier ++ r :: later) := by
  obtain ⟨hitems, hrequest, -⟩ := run_drain c guard (arrivalsOf chunks failure) judge s
  obtain ⟨released, hreleased, -, -, hbefore⟩ :=
    exists_released c guard chunks failure judge s
  have hblocked := isBlocked_settled_iff.2 ⟨earlier, r, later ++ after, hrounds, hr⟩
  obtain ⟨payload, hpayload⟩ := Option.isSome_iff_exists.1 hblocked
  refine ⟨earlier, r, later, payload, rfl, hr, ?_, ?_⟩
  · rw [stream, hrequest]
    exact hpayload
  · rw [stream, hitems, hreleased, hpayload, hbefore _ _ _ hrounds hr]
    rfl

/-- A needle that stands in the first text, or fits into the window together with the text of the
round in which it ends, stops the stream at this round at the latest. -/
theorem stream_isStoppedIn {before after : List Round} {r : Round}
    (hrounds : (Course.ofArrivals c (arrivalsOf chunks failure)).rounds = before ++ r :: after)
    (hspots : ∀ x ∈ (stream c guard chunks failure).exchanges judge s,
      needle <:+: x.1.text.toList → ∃ reason vendor, x.2 = .block reason vendor)
    (hends : EndsIn needle (before.flatMap Round.text) r.text)
    (hwide : before.flatMap Round.text = [] ∨
      max c.windowSize.toNat 1 ≤ (before.flatMap Round.text ++ r.text).length ∧
        r.text.length + needle.length - 1 ≤ max c.windowSize.toNat 1) :
    IsStoppedIn c guard chunks failure judge s (before ++ [r]) := by
  cases hbefore : ((settleAll c (.ofGuard c.windowSize.toNat guard) before).run judge
      s).1.1.isBlocked with
  | true =>
    -- it is stopped before this round
    obtain ⟨earlier, r', later, rfl, hr'⟩ := exists_refusedAfter rfl hbefore
    rw [List.append_assoc, List.cons_append]
    have hearlier : (Course.ofArrivals c (arrivalsOf chunks failure)).rounds =
        earlier ++ r' :: ((later ++ [r]) ++ after) := by
      rw [hrounds]
      simp
    exact isStoppedIn_of_refusedAt c guard chunks failure judge s hearlier hr'
  | false =>
    rw [stream, exchanges_drain, settled, hrounds] at hspots
    exact isStoppedIn_of_refusedAt c guard chunks failure judge s hrounds
      (refusedAfter_of_endsIn rfl (Window.follows_ofSize c.windowSize.toNat) hbefore hspots hends
        hwide)

end Run

/-- A checker that finds a needle in every text that contains it, and nothing else. -/
def spot (needle : String) : Consult.Judge Unit := fun _ question =>
  (if Text.contains question.text needle then .block "found" "scripted" else .pass, ())

theorem block_of_infix_spot {α : Type} {m : Consult α} {needle : String} {x : Exchange}
    (hx : x ∈ m.exchanges (spot needle) ()) (h : needle.toList <:+: x.1.text.toList) :
    ∃ reason vendor, x.2 = .block reason vendor := by
  obtain ⟨_, hverdict⟩ := Consult.exists_judge_of_mem hx
  have hcontains : Text.contains x.1.text needle = true := (Text.occurs_iff_infix _ _).2 h
  exact ⟨"found", "scripted", by simp [hverdict, spot, hcontains]⟩

/-- A needle in two pieces, each in a batch of its own behind a batch that is clean. -/
def splitNeedle : List Bytes := [deltaEvent "hello ", deltaEvent "ba", deltaEvent "d!"]

theorem stream_isStoppedIn_splitNeedle :
    let c := { narrowSettings with windowSize := 6 }
    let before : List Round := [.full (batchOf ["hello "]), .full (batchOf ["ba"])]
    let r : Round := .full (batchOf ["d!"])
    (Course.ofArrivals c (arrivalsOf splitNeedle none)).rounds = before ++ r :: [.last none] ∧
      EndsIn "bad".toList (before.flatMap Round.text) r.text ∧
      IsStoppedIn c ⟨0, false⟩ splitNeedle none (spot "bad") () (before ++ [r]) := by
  intro c before r
  have hrounds : (Course.ofArrivals c (arrivalsOf splitNeedle none)).rounds =
      before ++ r :: [.last none] := by
    decide +kernel
  have hbefore : before.flatMap Round.text = "hello ba".toList := by decide +kernel
  have hr : r.text = "d!".toList := by decide +kernel
  have hends : EndsIn "bad".toList (before.flatMap Round.text) r.text := by
    rw [hbefore, hr]
    exact ⟨"hello ".toList, by decide, by decide⟩
  refine ⟨hrounds, hends, ?_⟩
  refine stream_isStoppedIn c ⟨0, false⟩ splitNeedle none (spot "bad") () hrounds
    (fun x hx => block_of_infix_spot hx) hends (.inr ?_)
  rw [hbefore, hr]
  decide

end Interceptor

end ModerationGateway.Moderation
