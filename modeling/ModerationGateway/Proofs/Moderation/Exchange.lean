import ModerationGateway.Moderation.Release

/-!
# Questions and verdicts of a run

A run of a consultation against a judge leaves a record: the questions in the order in which they
are put, each with its verdict. A verdict refuses if it leads to an envelope; under a policy that
fails open a checker without an answer does not refuse.

* `Consult.exchanges`: the record of a run, with its law for `bind`;
* `Consult.Yields`: what every result of a consultation satisfies, whatever the verdicts;
* `Verdict.refusal?`: the envelope that a verdict leads to;
* `resolve_of_cleared`, `resolve_of_refused`: what a verdict does, by whether it refuses.
-/

namespace ModerationGateway.Moderation

open ModerationGateway.Stream

/-- A question and the verdict on it. -/
abbrev Exchange := Question × Verdict

namespace Consult

variable {α β σ : Type}

/-- The questions of a run in order, with their verdicts. -/
def exchanges (judge : Judge σ) : Consult α → σ → List Exchange
  | done _, _ => []
  | ask q next, s => (q, (judge s q).1) :: (next (judge s q).1).exchanges judge (judge s q).2

@[simp] theorem exchanges_done (judge : Judge σ) (a : α) (s : σ) :
    (done a).exchanges judge s = [] := rfl

theorem exchanges_ask (judge : Judge σ) (q : Question) (next : Verdict → Consult α) (s : σ) :
    (ask q next).exchanges judge s =
      (q, (judge s q).1) :: (next (judge s q).1).exchanges judge (judge s q).2 := rfl

/-- The record of a computation that goes on is the record of its parts. -/
theorem exchanges_bind (judge : Judge σ) (m : Consult α) (f : α → Consult β) (s : σ) :
    (m >>= f).exchanges judge s =
      m.exchanges judge s ++ (f (m.run judge s).1).exchanges judge (m.run judge s).2 := by
  induction m generalizing s with
  | done a => rfl
  | ask q next ih => simp [exchanges_ask, run_ask, ih]

/-- Every result satisfies a predicate, whatever the verdicts. -/
def Yields (P : α → Prop) : Consult α → Prop
  | done a => P a
  | ask _ next => ∀ v, (next v).Yields P

@[simp] theorem yields_done {P : α → Prop} {a : α} : (done a).Yields P ↔ P a := Iff.rfl

theorem Yields.bind {P : α → Prop} {Q : β → Prop} {m : Consult α} {f : α → Consult β}
    (hm : m.Yields P) (hf : ∀ a, P a → (f a).Yields Q) : (m >>= f).Yields Q := by
  induction m with
  | done a => exact hf a hm
  | ask q next ih => exact fun v => ih v (hm v)

theorem Yields.mono {P Q : α → Prop} {m : Consult α} (hm : m.Yields P) (h : ∀ a, P a → Q a) :
    m.Yields Q := by
  induction m with
  | done a => exact h a hm
  | ask q next ih => exact fun v => ih v (hm v)

/-- What a continuation ensures by itself holds of the whole. -/
theorem Yields.bind_right {Q : β → Prop} (m : Consult α) {f : α → Consult β}
    (hf : ∀ a, (f a).Yields Q) : (m >>= f).Yields Q := by
  induction m with
  | done a => exact hf a
  | ask q next ih => exact fun v => ih v

theorem Yields.run {P : α → Prop} {m : Consult α} (hm : m.Yields P) (judge : Judge σ) (s : σ) :
    P (m.run judge s).1 := by
  induction m generalizing s with
  | done a => exact hm
  | ask q next ih => exact ih _ (hm _) _

/-- Two continuations that agree on every possible result are the same. -/
theorem bind_congr_of_yields {P : α → Prop} {m : Consult α} {f g : α → Consult β}
    (hm : m.Yields P) (h : ∀ a, P a → f a = g a) : (m >>= f) = m >>= g := by
  induction m with
  | done a => exact h a hm
  | ask q next ih =>
    rw [ask_bind, ask_bind]
    congr 1
    funext v
    exact ih v (hm v)

theorem bind_congr {m : Consult α} {f g : α → Consult β} (h : ∀ a, f a = g a) :
    (m >>= f) = m >>= g := by
  rw [funext h]

end Consult

/-! ### Verdicts that refuse -/

/-- The envelope that a verdict on an answer leads to, if it refuses. -/
def Verdict.refusal? (policy : FailurePolicy) : Verdict → Option Envelope
  | .pass => none
  | .block reason _ => some (.responseViolation reason)
  | .error _ code =>
    match policy with
    | .failOpen => none
    | .failClosed => some (.unavailable code)

/-- No refusal: the text passed, or nobody could say under a policy that fails open. -/
theorem Verdict.refusal?_eq_none_iff {policy : FailurePolicy} {v : Verdict} :
    v.refusal? policy = none ↔
      v = .pass ∨ (policy = .failOpen ∧ ∃ message code, v = .error message code) := by
  cases v with
  | pass => simp [refusal?]
  | block reason vendor => simp [refusal?]
  | error message code => cases policy <;> simp [refusal?]

/-- A refusal: something was found, or nobody could say under a policy that fails closed. -/
theorem Verdict.refusal?_eq_some_iff {policy : FailurePolicy} {v : Verdict} {e : Envelope} :
    v.refusal? policy = some e ↔
      (∃ reason vendor, v = .block reason vendor ∧ e = .responseViolation reason) ∨
        (policy = .failClosed ∧
          ∃ message code, v = .error message code ∧ e = .unavailable code) := by
  cases v with
  | pass => simp [refusal?]
  | block reason vendor => simp [refusal?, eq_comm]
  | error message code =>
    cases policy with
    | failOpen => simp [refusal?]
    | failClosed =>
      constructor
      · rintro ⟨⟩
        exact .inr ⟨rfl, message, code, rfl, rfl⟩
      · rintro (⟨reason, vendor, h, -⟩ | ⟨-, message', code', h, rfl⟩)
        · contradiction
        · cases h
          rfl

/-- Under a policy that fails closed whatever is not a pass refuses. -/
theorem Verdict.exists_refusal_of_ne_pass {v : Verdict} (h : v ≠ .pass) :
    ∃ e, v.refusal? .failClosed = some e := by
  cases v with
  | pass => contradiction
  | block reason vendor => exact ⟨_, rfl⟩
  | error message code => exact ⟨_, rfl⟩

/-- A verdict that does not refuse lets the batch go. -/
theorem resolve_of_cleared {policy : FailurePolicy} {v : Verdict}
    (h : v.refusal? policy = none) (q : Request) (batch : Batch) :
    resolve policy q batch v = letGo { q with window := q.window.markChecked } batch := by
  rcases Verdict.refusal?_eq_none_iff.1 h with rfl | ⟨rfl, message, code, rfl⟩ <;> rfl

/-- A verdict that refuses leaves nothing but the envelope. -/
theorem resolve_of_refused {policy : FailurePolicy} {v : Verdict} {e : Envelope}
    (h : v.refusal? policy = some e) (q : Request) (batch : Batch) :
    resolve policy q batch v = refuse { q with window := q.window.markChecked } e := by
  cases v with
  | pass => simp [Verdict.refusal?] at h
  | block reason vendor =>
    cases h
    rfl
  | error message code =>
    cases policy with
    | failOpen => simp [Verdict.refusal?] at h
    | failClosed =>
      cases h
      rfl

end ModerationGateway.Moderation
