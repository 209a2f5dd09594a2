import ModerationGateway.Proofs.Moderation.Rounds

/-!
# Rounds let go and rounds refused

A round makes at most one check. Without a refusal it releases its own bytes and nothing else; a
refusal releases the envelope instead, and no round follows it.

* `Round.intake`, `Round.isChecked`: the text of a round in the window, and whether it is checked;
* `Round.settle_eq`: the decision on a round, of a request that is not blocked;
* `IsLetGo`, `IsRefused`: the two outcomes of a stretch of a run, and how they compose;
* `settle_isLetGo_or_isRefused`, `settleAll_isLetGo_or_isRefused`: there are no others, for one
  round and for a run of rounds;
* `isLetGo_settleAll`, `exists_isRefused_settleAll`: the payload shows which one it was;
* `RefusedAfter`: a given round is refused, with what is released then.
-/

namespace ModerationGateway.Stream.Request

theorem isBlocked_eq_false_iff {q : Request} : q.isBlocked = false ↔ q.payload = none := by
  simp [isBlocked]

end ModerationGateway.Stream.Request

namespace ModerationGateway.Moderation

open ModerationGateway.Stream

variable {σ : Type} {c : ContentSecurity} {q : Request}

namespace Round

/-- The text of a round comes into the window. The flag says whether it makes a check due. -/
def intake (q : Request) : Round → Request × Bool
  | full batch => takeIn q batch
  | last none => (q, false)
  | last (some batch) => takeIn q batch

/-- At the end of an answer a rule may want a check of what no check has seen. -/
def wantsTail (c : ContentSecurity) (q : Request) : Round → Bool
  | full _ => false
  | last _ => c.tailCheck && q.window.hasUnchecked

/-- The round makes a check. -/
def isChecked (c : ContentSecurity) (q : Request) (r : Round) : Bool :=
  (r.intake q).2 || r.wantsTail c (r.intake q).1

@[simp] theorem payload_intake (q : Request) (r : Round) : (r.intake q).1.payload = q.payload := by
  cases r with
  | full batch => rfl
  | last batch => cases batch <;> rfl

/-- The decision on a round: its text is taken in, then it is checked or let go. -/
theorem settle_eq (hq : q.payload = none) (r : Round) :
    r.settle c q =
      if r.isChecked c q then check c (r.intake q).1 r.batch
      else .done ((r.intake q).1, r.raws) := by
  cases r with
  | full batch =>
    simp only [settle, submit, hq, isChecked, wantsTail, intake, Round.batch, raws, Bool.or_false]
    cases h : takeIn q batch with
    | mk q' due => cases due <;> simp
  | last batch =>
    cases batch with
    | none => simp [settle, close, hq, isChecked, wantsTail, intake, checkTail, Round.batch, raws]
    | some batch =>
      simp only [settle, close, hq, isChecked, wantsTail, intake, Round.batch, raws,
        Option.getD_some]
      split
      next q' h => simp [h]
      next q' h => simp [h, checkTail]

end Round

/-! ### A check -/

/-- The question that a check of the window puts. -/
def windowQuestion (q : Request) : Question := ⟨.content, String.ofList q.window.text⟩

@[simp] theorem exchanges_check (c : ContentSecurity) (q : Request) (batch : Batch)
    (judge : Consult.Judge σ) (s : σ) :
    (check c q batch).exchanges judge s =
      [(windowQuestion q, (judge s (windowQuestion q)).1)] := rfl

@[simp] theorem run_check (c : ContentSecurity) (q : Request) (batch : Batch)
    (judge : Consult.Judge σ) (s : σ) :
    (check c q batch).run judge s =
      (resolve c.failurePolicy { q with checks := q.checks + 1 } batch
          (judge s (windowQuestion q)).1,
        (judge s (windowQuestion q)).2) := rfl

/-! ### The two outcomes -/

section Outcome

variable (c : ContentSecurity) (judge : Consult.Judge σ) (s : σ)

/-- A stretch of a run that no verdict refuses, with what it releases. -/
structure IsLetGo (m : Consult (Request × List Bytes)) (out : List Bytes) : Prop where
  payload : (m.run judge s).1.1.payload = none
  released : (m.run judge s).1.2 = out
  cleared : ∀ x ∈ m.exchanges judge s, x.2.refusal? c.failurePolicy = none

/-- A stretch of a run whose last verdict refuses, with what it releases before the envelope. -/
structure IsRefused (m : Consult (Request × List Bytes)) (out : List Bytes) (e : Envelope) :
    Prop where
  payload : (m.run judge s).1.1.payload = some e.bytes
  released : (m.run judge s).1.2 = out ++ [e.bytes]
  refused : ∃ earlier x, m.exchanges judge s = earlier ++ [x] ∧
    (∀ y ∈ earlier, y.2.refusal? c.failurePolicy = none) ∧ x.2.refusal? c.failurePolicy = some e

end Outcome

variable {judge : Consult.Judge σ} {s : σ} {m : Consult (Request × List Bytes)}
  {next : Request → Consult (Request × List Bytes)} {out more : List Bytes} {e : Envelope}

theorem run_andThen_of_isLetGo (h : IsLetGo c judge s m out) :
    (andThen m next).run judge s =
      let y := (next (m.run judge s).1.1).run judge (m.run judge s).2
      ((y.1.1, out ++ y.1.2), y.2) := by
  have hunblocked := Request.isBlocked_eq_false_iff.2 h.payload
  simp [andThen_eq, Consult.run_bind, hunblocked, h.released]

theorem exchanges_andThen_of_isLetGo (h : IsLetGo c judge s m out) :
    (andThen m next).exchanges judge s =
      m.exchanges judge s ++ (next (m.run judge s).1.1).exchanges judge (m.run judge s).2 := by
  have hunblocked := Request.isBlocked_eq_false_iff.2 h.payload
  simp [andThen_eq, Consult.exchanges_bind, hunblocked]

theorem IsLetGo.andThen_isLetGo (h : IsLetGo c judge s m out)
    (h' : IsLetGo c judge (m.run judge s).2 (next (m.run judge s).1.1) more) :
    IsLetGo c judge s (andThen m next) (out ++ more) := by
  refine ⟨?_, ?_, fun x hx => ?_⟩
  · rw [run_andThen_of_isLetGo h]
    exact h'.payload
  · rw [run_andThen_of_isLetGo h, ← h'.released]
  · rw [exchanges_andThen_of_isLetGo h] at hx
    rcases List.mem_append.1 hx with hx | hx
    · exact h.cleared x hx
    · exact h'.cleared x hx

theorem IsLetGo.andThen_isRefused (h : IsLetGo c judge s m out)
    (h' : IsRefused c judge (m.run judge s).2 (next (m.run judge s).1.1) more e) :
    IsRefused c judge s (andThen m next) (out ++ more) e := by
  obtain ⟨earlier, x, hexchanges, hearlier, hx⟩ := h'.refused
  refine ⟨?_, ?_, m.exchanges judge s ++ earlier, x, ?_, fun y hy => ?_, hx⟩
  · rw [run_andThen_of_isLetGo h]
    exact h'.payload
  · rw [run_andThen_of_isLetGo h, List.append_assoc, ← h'.released]
  · rw [exchanges_andThen_of_isLetGo h, hexchanges, List.append_assoc]
  · rcases List.mem_append.1 hy with hy | hy
    · exact h.cleared y hy
    · exact hearlier y hy

theorem exchanges_andThen_of_isRefused (h : IsRefused c judge s m out e) :
    (andThen m next).exchanges judge s = m.exchanges judge s := by
  have hblocked : (m.run judge s).1.1.isBlocked = true := by
    simp [Request.isBlocked, h.payload]
  simp [andThen_eq, Consult.exchanges_bind, hblocked]

/-- After a refusal nothing goes on. -/
theorem IsRefused.andThen (h : IsRefused c judge s m out e) :
    IsRefused c judge s (andThen m next) out e := by
  have hblocked : (m.run judge s).1.1.isBlocked = true := by
    simp [Request.isBlocked, h.payload]
  refine ⟨?_, ?_, ?_⟩
  · simpa [andThen_eq, Consult.run_bind, hblocked] using h.payload
  · simpa [andThen_eq, Consult.run_bind, hblocked] using h.released
  · simpa [exchanges_andThen_of_isRefused h] using h.refused

/-- One round is let go or refused. -/
theorem settle_isLetGo_or_isRefused (c : ContentSecurity) (judge : Consult.Judge σ) (s : σ)
    (hq : q.payload = none) (r : Round) :
    IsLetGo c judge s (r.settle c q) r.raws ∨ ∃ e, IsRefused c judge s (r.settle c q) [] e := by
  rw [Round.settle_eq hq]
  split
  · cases h : (judge s (windowQuestion (r.intake q).1)).1.refusal? c.failurePolicy with
    | none =>
      refine .inl ⟨?_, ?_, ?_⟩
      · simpa [resolve_of_cleared h, letGo] using hq
      · simp [resolve_of_cleared h, letGo, Round.raws]
      · simp [h]
    | some e =>
      refine .inr ⟨e, ?_, ?_, [], _, rfl, by simp, h⟩
      · simp [resolve_of_refused h, refuse, Request.block, hq]
      · simp [resolve_of_refused h, refuse]
  · exact .inl ⟨by simpa using hq, rfl, by simp⟩

/-- Rounds are let go up to the first one that is refused; that one is replaced, and none of those
after it is settled. -/
theorem settleAll_isLetGo_or_isRefused (c : ContentSecurity) (judge : Consult.Judge σ) (s : σ)
    (hq : q.payload = none) (rounds : List Round) :
    IsLetGo c judge s (settleAll c q rounds) (rounds.flatMap Round.raws) ∨
      ∃ before r after e, rounds = before ++ r :: after ∧
        IsRefused c judge s (settleAll c q rounds) (before.flatMap Round.raws) e := by
  induction rounds generalizing q s with
  | nil => exact .inl ⟨hq, rfl, by simp⟩
  | cons r rounds ih =>
    rw [settleAll_cons]
    rcases settle_isLetGo_or_isRefused c judge s hq r with hr | ⟨e, hr⟩
    · rcases ih ((r.settle c q).run judge s).2 hr.payload with
        hgo | ⟨before, r', after, e, rfl, hno⟩
      · exact .inl (hr.andThen_isLetGo hgo)
      · exact .inr ⟨r :: before, r', after, e, rfl, hr.andThen_isRefused hno⟩
    · exact .inr ⟨[], r, rounds, e, rfl, hr.andThen⟩

/-- Rounds that leave a request unblocked are let go. -/
theorem isLetGo_settleAll (hq : q.payload = none) {rounds : List Round}
    (h : ((settleAll c q rounds).run judge s).1.1.payload = none) :
    IsLetGo c judge s (settleAll c q rounds) (rounds.flatMap Round.raws) := by
  rcases settleAll_isLetGo_or_isRefused c judge s hq rounds with hgo | ⟨_, _, _, e, _, hno⟩
  · exact hgo
  · rw [hno.payload] at h
    contradiction

/-- The payload that rounds leave is the envelope of the one that was refused. -/
theorem exists_isRefused_settleAll (hq : q.payload = none) {rounds : List Round} {payload : Bytes}
    (h : ((settleAll c q rounds).run judge s).1.1.payload = some payload) :
    ∃ before r after e, rounds = before ++ r :: after ∧ payload = e.bytes ∧
      IsRefused c judge s (settleAll c q rounds) (before.flatMap Round.raws) e := by
  rcases settleAll_isLetGo_or_isRefused c judge s hq rounds with
    hgo | ⟨before, r, after, e, hrounds, hno⟩
  · rw [hgo.payload] at h
    contradiction
  · rw [hno.payload] at h
    exact ⟨before, r, after, e, hrounds, (Option.some.inj h).symm, hno⟩

/-- The check of a round refuses, after rounds that were all let go. -/
def RefusedAfter (c : ContentSecurity) (judge : Consult.Judge σ) (q : Request) (s : σ)
    (before : List Round) (r : Round) : Prop :=
  let x := (settleAll c q before).run judge s
  x.1.1.isBlocked = false ∧ ((r.settle c x.1.1).run judge x.2).1.1.isBlocked = true

/-- Rounds that leave a request blocked have one that was refused. -/
theorem exists_refusedAfter (hq : q.payload = none) {rounds : List Round}
    (h : ((settleAll c q rounds).run judge s).1.1.isBlocked = true) :
    ∃ before r after, rounds = before ++ r :: after ∧ RefusedAfter c judge q s before r := by
  induction rounds generalizing q s with
  | nil =>
    have hunblocked := Request.isBlocked_eq_false_iff.2 hq
    rw [settleAll_nil, Consult.run_done, hunblocked] at h
    contradiction
  | cons r rounds ih =>
    rcases settle_isLetGo_or_isRefused c judge s hq r with hgo | ⟨e, hno⟩
    · rw [settleAll_cons, run_andThen_of_isLetGo hgo] at h
      obtain ⟨before, r', after, rfl, hbefore, hr'⟩ := ih hgo.payload h
      refine ⟨r :: before, r', after, rfl, ?_⟩
      unfold RefusedAfter
      rw [settleAll_cons, run_andThen_of_isLetGo hgo]
      exact ⟨hbefore, hr'⟩
    · exact ⟨[], r, rounds, rfl, Request.isBlocked_eq_false_iff.2 hq,
        by simp [Request.isBlocked, hno.payload]⟩

/-- When a round is refused, the rounds before it are all that is released. -/
theorem RefusedAfter.isRefused (hq : q.payload = none) {before : List Round} {r : Round}
    (h : RefusedAfter c judge q s before r) (after : List Round) :
    ∃ e, IsRefused c judge s (settleAll c q (before ++ r :: after)) (before.flatMap Round.raws)
      e := by
  obtain ⟨hbefore, hr⟩ := h
  rw [settleAll_append c (Request.isBlocked_eq_false_iff.2 hq)]
  have hgo := isLetGo_settleAll hq (Request.isBlocked_eq_false_iff.1 hbefore)
  rcases settle_isLetGo_or_isRefused c judge ((settleAll c q before).run judge s).2
    hgo.payload r with hgo' | ⟨e, hno⟩
  · rw [Request.isBlocked_eq_false_iff.2 hgo'.payload] at hr
    contradiction
  · have hrest : IsRefused c judge ((settleAll c q before).run judge s).2
        (settleAll c ((settleAll c q before).run judge s).1.1 (r :: after)) [] e := hno.andThen
    refine ⟨e, ?_⟩
    rw [← List.append_nil (before.flatMap Round.raws)]
    exact hgo.andThen_isRefused hrest

end ModerationGateway.Moderation
