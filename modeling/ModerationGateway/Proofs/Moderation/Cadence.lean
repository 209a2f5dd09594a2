import ModerationGateway.Proofs.Moderation.Coverage
import ModerationGateway.Proofs.Moderation.Session

/-!
# When a session checks

The texts of the rounds alone say when there is a check and what it shows, as long as nothing is
refused. The first text is checked at once. From then on a text makes a check due if it has come
far enough for the window to be full, and the end of the answer is checked if there is text that
came after the last check.

* `Window.Follows`: a window that was checked as soon as there was text in it;
* `Round.settle_follows`: a round that is let go keeps this;
* `textIn`, `IsDue`, `HasRest`: the text of some decisions, text that makes a check due, and text
  that came after the last check;
* `IsTimely`: a decision whose check is made at its time and shows what it should;
* `session_isTimely`: all decisions of a session are, as long as nothing is refused.
-/

namespace ModerationGateway.Stream.Window

/-- The window after some text has arrived, of which the first piece was checked. -/
structure Follows (w : Window) (size : Nat) (arrived : List Char) (last : Nat) : Prop extends
    w.Tracks size arrived last where
  first : last = 0 → arrived = []

variable {w : Window} {size last : Nat} {arrived : List Char}

theorem follows_ofSize (size : Nat) : (ofSize size).Follows (max size 1) [] 0 :=
  ⟨tracks_ofSize size, fun _ => rfl⟩

/-- There was a check exactly if there was text. -/
theorem Follows.last_eq_zero_iff (h : w.Follows size arrived last) : last = 0 ↔ arrived = [] := by
  refine ⟨h.first, fun harrived => ?_⟩
  have hle := h.last_le
  rw [harrived] at hle
  exact Nat.le_zero.1 hle

end ModerationGateway.Stream.Window

namespace ModerationGateway.Moderation

open ModerationGateway.Stream

variable {σ : Type} {c : ContentSecurity} {judge : Consult.Judge σ} {s : σ} {q : Request}
  {size last : Nat} {arrived : List Char}

/-! ### One round -/

namespace Round

/-- A round is checked if its text makes a check due, or at the end of the answer if there is text
behind the last check. -/
theorem isChecked_iff_of_follows (hw : q.window.Follows size arrived last) (r : Round) :
    r.isChecked c q = true ↔
      (r.text ≠ [] ∧ (arrived = [] ∨ size ≤ (arrived ++ r.text).length)) ∨
        (r.isLast && c.tailCheck) = true ∧ last < (arrived ++ r.text).length := by
  rw [r.isChecked_iff hw.toTracks, hw.last_eq_zero_iff, List.length_append, List.length_pos_iff]

/-- A checked round has brought some text, or left some. -/
theorem length_pos_of_isChecked (hw : q.window.Follows size arrived last) {r : Round}
    (h : r.isChecked c q = true) : 0 < (arrived ++ r.text).length := by
  rcases (isChecked_iff_of_follows hw r).1 h with ⟨htext, -⟩ | ⟨-, hbehind⟩
  · rw [List.length_append]
    exact Nat.lt_add_left _ (List.length_pos_iff.2 htext)
  · exact Nat.lt_of_le_of_lt (Nat.zero_le last) hbehind

/-- The window shows everything before the first check, and the newest characters later. -/
theorem text_window_intake (hw : q.window.Follows size arrived last) (r : Round) :
    (r.intake q).1.window.text =
      if last = 0 then arrived ++ r.text
      else (arrived ++ r.text).drop ((arrived ++ r.text).length - size) := by
  obtain ⟨hwindow, -⟩ := r.intake_eq q
  rw [hwindow, (hw.toTracks.add r.text).1.text_eq, Window.oldest]
  split
  · rfl
  · rfl

/-- A round that is let go leaves a window that follows the text. -/
theorem settle_follows (hq : q.payload = none) (hw : q.window.Follows size arrived last) (r : Round)
    {out : List Bytes} (hgo : IsLetGo c judge s (r.settle c q) out) :
    ((r.settle c q).run judge s).1.1.window.Follows size (arrived ++ r.text)
      (if r.isChecked c q then (arrived ++ r.text).length else last) := by
  refine ⟨(r.settle_tracks hq hw.toTracks hgo).2, fun hzero => ?_⟩
  by_cases hchecked : r.isChecked c q = true
  · rw [if_pos hchecked] at hzero
    exact List.length_eq_zero_iff.1 hzero
  · rw [if_neg hchecked] at hzero
    -- without a check there was no text, neither before nor now
    have harrived := hw.first hzero
    have htext : r.text = [] := by
      by_contra htext
      exact hchecked ((isChecked_iff_of_follows hw r).2 (.inl ⟨htext, .inl harrived⟩))
    rw [harrived, htext, List.append_nil]

end Round

/-! ### The texts of decisions -/

/-- The text that some decisions were about. -/
def textIn (ds : List Decision) : List Char := ds.flatMap (·.round.text)

@[simp] theorem textIn_nil : textIn [] = [] := rfl

@[simp] theorem textIn_singleton (d : Decision) : textIn [d] = d.round.text := by
  simp [textIn]

@[simp] theorem textIn_append (ds more : List Decision) :
    textIn (ds ++ more) = textIn ds ++ textIn more := by
  simp [textIn]

/-- The text of a decision makes a check due: it is the first text, or there has been enough to
fill the window. -/
def IsDue (size : Nat) (before : List Decision) (d : Decision) : Prop :=
  d.round.text ≠ [] ∧ (textIn before = [] ∨ size ≤ (textIn before ++ d.round.text).length)

/-- Of the text of some decisions and one more text, something came after the last check. -/
def HasRest (before : List Decision) (text : List Char) : Prop :=
  ∃ earlier later, before = earlier ++ later ∧ exchangesIn later = [] ∧ textIn later ++ text ≠ []

/-- A text leaves a rest, or there was one before. -/
theorem hasRest_iff {before : List Decision} {text : List Char} :
    HasRest before text ↔ text ≠ [] ∨ HasRest before [] := by
  constructor
  · rintro ⟨earlier, later, hbefore, hlater, htext⟩
    by_cases hnil : text = []
    · subst hnil
      exact .inr ⟨earlier, later, hbefore, hlater, htext⟩
    · exact .inl hnil
  · rintro (htext | ⟨earlier, later, hbefore, hlater, hrest⟩)
    · exact ⟨before, [], (List.append_nil before).symm, rfl, htext⟩
    · refine ⟨earlier, later, hbefore, hlater, fun hnil => hrest ?_⟩
      rw [(List.append_eq_nil_iff.1 hnil).1, List.append_nil]

/-- A decision leaves a rest if it made no check, and there was one or its text is one. -/
theorem hasRest_concat {before : List Decision} {d : Decision} :
    HasRest (before ++ [d]) [] ↔ d.exchanges = [] ∧ HasRest before d.round.text := by
  constructor
  · rintro ⟨earlier, later, hbefore, hlater, htext⟩
    rcases List.eq_nil_or_concat later with rfl | ⟨later, d', rfl⟩
    · contradiction
    · rw [List.concat_eq_append] at hbefore hlater htext
      rw [← List.append_assoc] at hbefore
      obtain ⟨rfl, hd⟩ := List.append_inj' hbefore rfl
      obtain rfl := List.singleton_inj.1 hd
      rw [exchangesIn_append, exchangesIn_singleton, List.append_eq_nil_iff] at hlater
      rw [List.append_nil, textIn_append, textIn_singleton] at htext
      exact ⟨hlater.2, earlier, later, rfl, hlater.1, htext⟩
  · rintro ⟨hd, earlier, later, rfl, hlater, htext⟩
    refine ⟨earlier, later ++ [d], List.append_assoc earlier later [d], ?_, ?_⟩
    · rw [exchangesIn_append, exchangesIn_singleton, hlater, hd, List.append_nil]
    · rwa [textIn_append, textIn_singleton, List.append_nil]

/-! ### Checks at their time -/

/-- The checks of a decision are at their time. -/
structure IsTimely (size : Nat) (tail : Bool) (before : List Decision) (d : Decision) : Prop where
  /-- There is a check if one is due, or else at the end of the answer for what came after the last
  check. -/
  checked_iff : d.exchanges ≠ [] ↔ IsDue size before d ∨
    ¬ IsDue size before d ∧ d.round.isLast = true ∧ tail = true ∧ HasRest before d.round.text
  /-- The first check shows all of the text, and later ones show the newest characters. -/
  questions : d.exchanges ≠ [] → d.exchanges.map Prod.fst =
    [⟨.content, String.ofList
      (if exchangesIn before = [] then textIn before ++ d.round.text
        else (textIn before ++ d.round.text).drop
          ((textIn before ++ d.round.text).length - size))⟩]
  /-- The checks are counted. -/
  checks : d.after.checks = (exchangesIn (before ++ [d])).length

/-- The request keeps up with the decisions made so far, as long as nothing is refused. -/
structure KeepsUp (policy : FailurePolicy) (size : Nat) (earlier : List Decision) (q : Request) :
    Prop where
  checks : q.checks = (exchangesIn earlier).length
  follows : (∀ x ∈ exchangesIn earlier, x.2.refusal? policy = none) →
    q.payload = none ∧ ∃ last, q.window.Follows size (textIn earlier) last ∧
      (last = 0 ↔ exchangesIn earlier = []) ∧
      (last < (textIn earlier).length ↔ HasRest earlier [])

namespace KeepsUp

variable {earlier : List Decision}

theorem start (policy : FailurePolicy) (windowSize : Nat) (guard : Guard) :
    KeepsUp policy (max windowSize 1) [] (.ofGuard windowSize guard) := by
  refine ⟨rfl, fun _ => ⟨rfl, 0, Window.follows_ofSize windowSize, by simp, ?_⟩⟩
  simp [HasRest]

theorem checks_decision (h : KeepsUp c.failurePolicy size earlier q) (judge : Consult.Judge σ)
    (s : σ) (r : Round) :
    (r.decision judge c q s).after.checks =
      (exchangesIn (earlier ++ [r.decision judge c q s])).length := by
  have hchecks : (r.decision judge c q s).after.checks =
      q.checks + (r.decision judge c q s).exchanges.length := r.checks_settle
  rw [hchecks, h.checks, exchangesIn_append, exchangesIn_singleton, List.length_append]

/-- What stands behind the last check is text of this round, or was left before. -/
theorem lt_length_iff_hasRest (hw : q.window.Follows size (textIn earlier) last)
    (hrest : last < (textIn earlier).length ↔ HasRest earlier []) (text : List Char) :
    last < (textIn earlier ++ text).length ↔ HasRest earlier text := by
  have hle := hw.last_le
  rw [hasRest_iff, ← hrest, ← List.length_pos_iff, List.length_append]
  omega

/-- A decision before any refusal is made at its time. -/
theorem isTimely_decision (h : KeepsUp c.failurePolicy size earlier q) (judge : Consult.Judge σ)
    (s : σ) (r : Round)
    (hcleared : ∀ x ∈ exchangesIn earlier, x.2.refusal? c.failurePolicy = none) :
    IsTimely size c.tailCheck earlier (r.decision judge c q s) := by
  obtain ⟨hq, last, hw, hzero, hrest⟩ := h.follows hcleared
  have hchecked := r.exchanges_decision_ne_nil_iff (c := c) judge s hq
  constructor
  case checked_iff =>
    rw [hchecked, Round.isChecked_iff_of_follows hw, lt_length_iff_hasRest hw hrest,
      Bool.and_eq_true, and_assoc]
    have hdue : IsDue size earlier (r.decision judge c q s) ↔
        r.text ≠ [] ∧ (textIn earlier = [] ∨ size ≤ (textIn earlier ++ r.text).length) := Iff.rfl
    rw [← hdue]
    by_cases h : IsDue size earlier (r.decision judge c q s)
    · exact ⟨fun _ => .inl h, fun _ => .inl h⟩
    · exact or_congr_right ⟨fun htail => ⟨h, htail⟩, fun htail => htail.2⟩
  case questions =>
    intro hasked
    show ((r.settle c q).exchanges judge s).map Prod.fst = _
    rw [r.exchanges_settle hq, if_pos (hchecked.1 hasked), Round.round_decision]
    simp only [List.map_singleton, windowQuestion, Round.text_window_intake hw, hzero]
  case checks => exact h.checks_decision judge s r

/-- A decision that refuses nothing is kept up with. -/
theorem concat (h : KeepsUp c.failurePolicy size earlier q) (judge : Consult.Judge σ) (s : σ)
    (r : Round) :
    KeepsUp c.failurePolicy size (earlier ++ [r.decision judge c q s])
      (r.decision judge c q s).after := by
  refine ⟨h.checks_decision judge s r, fun hcleared => ?_⟩
  rw [exchangesIn_append, exchangesIn_singleton] at hcleared
  obtain ⟨hq, last, hw, hzero, hrest⟩ :=
    h.follows fun x hx => hcleared x (List.mem_append_left _ hx)
  have hgo : IsLetGo c judge s (r.settle c q) r.raws :=
    r.isLetGo_of_cleared hq fun x hx => hcleared x (List.mem_append_right _ hx)
  have hfollows := r.settle_follows hq hw hgo
  have hchecked := r.exchanges_decision_ne_nil_iff (c := c) judge s hq
  refine ⟨hgo.payload, if r.isChecked c q then (textIn earlier ++ r.text).length else last, ?_⟩
  rw [exchangesIn_append, exchangesIn_singleton, textIn_append, textIn_singleton, hasRest_concat,
    Round.round_decision]
  refine ⟨hfollows, ?_⟩
  by_cases hr : r.isChecked c q = true
  · -- the check stands behind all the text
    have hpos := Round.length_pos_of_isChecked hw hr
    have hasked := hchecked.2 hr
    rw [if_pos hr]
    refine ⟨⟨fun hnil => ?_, fun hnil => ?_⟩, ⟨fun hlt => ?_, fun hnil => ?_⟩⟩
    · exact absurd hnil (Nat.ne_of_gt hpos)
    · exact absurd (List.append_eq_nil_iff.1 hnil).2 hasked
    · exact absurd hlt (Nat.lt_irrefl _)
    · exact absurd hnil.1 hasked
  · have hasked : (r.decision judge c q s).exchanges = [] := by
      by_contra hasked
      exact hr (hchecked.1 hasked)
    rw [if_neg hr, hasked, List.append_nil, lt_length_iff_hasRest hw hrest]
    exact ⟨hzero, (and_iff_right rfl).symm⟩

end KeepsUp

/-- Every check of a session that refuses nothing is made at its time. -/
theorem session_isTimely (c : ContentSecurity) (guard : Guard) (windowSize : Nat)
    (rounds : List Round) (judge : Consult.Judge σ) (s : σ) :
    let ds := session judge c (.ofGuard windowSize guard) s rounds
    ds.map (·.round) = rounds ∧
      ∀ before d after, ds = before ++ d :: after →
        (∀ x ∈ exchangesIn before, x.2.refusal? c.failurePolicy = none) →
          IsTimely (max windowSize 1) c.tailCheck before d := by
  refine ⟨map_round_session judge c _ s rounds, fun before d after hds => ?_⟩
  have htimely := session_induction (KeepsUp c.failurePolicy (max windowSize 1))
    (fun before d => (∀ x ∈ exchangesIn before, x.2.refusal? c.failurePolicy = none) →
      IsTimely (max windowSize 1) c.tailCheck before d)
    (fun earlier q s r h => ⟨h.isTimely_decision judge s r, h.concat judge s r⟩)
    (.start c.failurePolicy windowSize guard) hds
  rwa [List.nil_append] at htimely

/-- The first text is checked, two short ones are not, and the check of the end shows them with the
text that was checked before. -/
theorem session_isTimely_shortTexts :
    let c := { Interceptor.narrowSettings with windowSize := 8 }
    let ds := session Interceptor.passAll c (.ofGuard 8 ⟨0, false⟩) ()
      [.full (batchOf ["ab"]), .full (batchOf ["c"]), .full (batchOf ["de"]),
        .last (some (batchOf ["f"]))]
    (∀ x ∈ exchangesIn ds, x.2.refusal? c.failurePolicy = none) ∧
      exchangesIn ds = [(⟨.content, "ab"⟩, .pass), (⟨.content, "abcdef"⟩, .pass)] ∧
      ∃ first second third fourth, ds = [first, second, third, fourth] ∧
        IsTimely 8 true [first, second, third] fourth := by
  intro c ds
  have hexchanges : exchangesIn ds =
      [(⟨.content, "ab"⟩, .pass), (⟨.content, "abcdef"⟩, .pass)] := by
    decide +kernel
  have hcleared : ∀ x ∈ exchangesIn ds, x.2.refusal? c.failurePolicy = none := by
    rw [hexchanges]
    decide
  have hsplit : exchangesIn ds = exchangesIn (ds.take 3) ++ exchangesIn (ds.drop 3) := by
    rw [← exchangesIn_append, List.take_append_drop]
  obtain ⟨-, htimely⟩ := session_isTimely c ⟨0, false⟩ 8
    [.full (batchOf ["ab"]), .full (batchOf ["c"]), .full (batchOf ["de"]),
      .last (some (batchOf ["f"]))] Interceptor.passAll ()
  refine ⟨hcleared, hexchanges, _, _, _, _, rfl, htimely [_, _, _] _ _ rfl fun x hx => ?_⟩
  refine hcleared x ?_
  rw [hsplit]
  exact List.mem_append_left _ hx

end ModerationGateway.Moderation
