import ModerationGateway.Moderation.Screening
import ModerationGateway.Proofs.Moderation.Exchange
import ModerationGateway.Moderation.Interceptor

/-!
# Checkers that fail under a policy that fails open

Two runs are compared, one with a checker that has no answer now and then and one with a checker
that passes the text instead. Under a policy that fails open nothing tells them apart.

* `Verdict.Softens`, `Consult.InStep`: an error is replaced by a pass, and judges that differ in
  nothing else;
* `Consult.Forgives`: a consultation that goes on after an error as after a pass;
* `Consult.Forgives.run_eq`: judges in step cannot be told apart by it;
* `forgives_submit`, `forgives_close`, `Interceptor.forgives_next`, `Interceptor.forgives_drain`,
  `forgives_screen`: moderation and screening under a policy that fails open.
-/

namespace ModerationGateway.Moderation

open ModerationGateway.Stream

/-- A verdict stays, or it is an error and becomes a pass. -/
inductive Verdict.Softens : Verdict → Verdict → Prop where
  | refl (v : Verdict) : Softens v v
  | error (message code : String) : Softens (.error message code) .pass

namespace Consult

variable {α β σ τ : Type}

/-- From related states two judges put to the same question give the same verdict, but for errors
that become passes, and are in related states after it. -/
def InStep (R : σ → τ → Prop) (judge : Judge σ) (other : Judge τ) : Prop :=
  ∀ s t, R s t → ∀ q, (judge s q).1.Softens (other t q).1 ∧ R (judge s q).2 (other t q).2

/-- The questions of a run. -/
def questions (judge : Judge σ) (m : Consult α) (s : σ) : List Question :=
  (m.exchanges judge s).map (·.1)

theorem questions_ask (judge : Judge σ) (q : Question) (next : Verdict → Consult α) (s : σ) :
    (ask q next).questions judge s =
      q :: (next (judge s q).1).questions judge (judge s q).2 := rfl

/-- After an error the computation goes on as after a pass. -/
def Forgives : Consult α → Prop
  | done _ => True
  | ask _ next =>
    (∀ message code, next (.error message code) = next .pass) ∧ ∀ v, (next v).Forgives

@[simp] theorem forgives_done (a : α) : (done a).Forgives := trivial

theorem Forgives.bind {m : Consult α} {f : α → Consult β} (hm : m.Forgives)
    (hf : ∀ a, (f a).Forgives) : (m >>= f).Forgives := by
  induction m with
  | done a => exact hf a
  | ask q next ih =>
    obtain ⟨herror, hnext⟩ := hm
    constructor
    · intro message code
      exact congrArg (· >>= f) (herror message code)
    · intro v
      exact ih v (hnext v)

theorem eq_of_softens {next : Verdict → Consult α} {v v' : Verdict} (h : v.Softens v')
    (herror : ∀ message code, next (.error message code) = next .pass) : next v = next v' := by
  cases h with
  | refl => rfl
  | error message code => exact herror message code

/-- Judges in step lead to the same result by the same questions. -/
theorem Forgives.run_eq {m : Consult α} (hm : m.Forgives) {R : σ → τ → Prop} {judge : Judge σ}
    {other : Judge τ} (h : InStep R judge other) {s : σ} {t : τ} (hst : R s t) :
    (m.run judge s).1 = (m.run other t).1 ∧
      m.questions judge s = m.questions other t ∧
      R (m.run judge s).2 (m.run other t).2 := by
  induction m generalizing s t with
  | done a => exact ⟨rfl, rfl, hst⟩
  | ask q next ih =>
    obtain ⟨herror, hnext⟩ := hm
    obtain ⟨hsoftens, hrelated⟩ := h s t hst q
    -- the two runs go on with the same computation, whatever the verdicts
    have hsame := eq_of_softens hsoftens herror
    obtain ⟨hresult, hquestions, hafter⟩ := ih (judge s q).1 (hnext _) hrelated
    rw [run_ask, run_ask, questions_ask, questions_ask, ← hsame]
    exact ⟨hresult, by rw [hquestions], hafter⟩

end Consult

open Consult

variable {c : ContentSecurity}

theorem forgives_check (hopen : c.failurePolicy = .failOpen) (q : Request) (batch : Batch) :
    (check c q batch).Forgives := by
  constructor
  · intro message code
    simp only [resolve, hopen]
  · intro v
    exact forgives_done _

theorem forgives_submit (hopen : c.failurePolicy = .failOpen) (q : Request) (batch : Batch) :
    (submit c q batch).Forgives := by
  unfold submit
  split
  · exact forgives_done _
  · split
    · exact forgives_check hopen _ batch
    · exact forgives_done _

theorem forgives_checkTail (hopen : c.failurePolicy = .failOpen) (q : Request) (batch : Batch) :
    (checkTail c q batch).Forgives := by
  unfold checkTail
  split
  · exact forgives_check hopen q batch
  · exact forgives_done _

theorem forgives_close (hopen : c.failurePolicy = .failOpen) (q : Request) (last : Option Batch) :
    (close c q last).Forgives := by
  unfold close
  split
  · exact forgives_done _
  · split
    · exact forgives_checkTail hopen q []
    · split
      · exact forgives_check hopen _ _
      · exact forgives_checkTail hopen _ _

namespace Interceptor

theorem forgives_onFrames (hopen : c.failurePolicy = .failOpen) (p : Interceptor)
    (frames : List Frame) : (onFrames c p frames).Forgives := by
  induction frames generalizing p with
  | nil => exact forgives_done p
  | cons frame frames ih =>
    unfold onFrames
    split
    · exact ih _
    · apply (forgives_submit hopen _ _).bind
      intro x
      dsimp only
      split
      · exact forgives_done _
      · exact ih _

theorem forgives_onChunk (hopen : c.failurePolicy = .failOpen) (p : Interceptor) (chunk : Bytes) :
    (onChunk c p chunk).Forgives :=
  forgives_onFrames hopen _ _

theorem forgives_onEnd (hopen : c.failurePolicy = .failOpen) (p : Interceptor) :
    (onEnd c p).Forgives := by
  apply (forgives_onFrames hopen _ _).bind
  intro p'
  split
  · exact forgives_done p'
  · apply (forgives_close hopen _ _).bind
    intro x
    dsimp only
    split
    · exact forgives_done _
    · exact forgives_done _

theorem forgives_next (hopen : c.failurePolicy = .failOpen) (p : Interceptor)
    (arrivals : List Arrival) : (next c p arrivals).Forgives := by
  induction arrivals generalizing p with
  | nil =>
    unfold next
    split
    · exact (forgives_onEnd hopen p).bind fun _ => forgives_done _
    · exact forgives_done _
  | cons arrival rest ih =>
    unfold next
    split
    · cases arrival with
      | chunk bytes => exact (forgives_onChunk hopen p bytes).bind ih
      | failed message => exact forgives_done _
    · exact forgives_done _

theorem forgives_drain (hopen : c.failurePolicy = .failOpen) (p : Interceptor)
    (arrivals : List Arrival) : (drain c p arrivals).Forgives := by
  induction arrivals generalizing p with
  | nil =>
    unfold drain
    dsimp only
    split
    · exact forgives_done _
    · exact (forgives_onEnd hopen _).bind fun _ => forgives_done _
  | cons arrival rest ih =>
    unfold drain
    dsimp only
    split
    · exact forgives_done _
    · cases arrival with
      | chunk bytes =>
        apply (forgives_onChunk hopen _ bytes).bind
        intro p'
        exact (ih p').bind fun _ => forgives_done _
      | failed message => exact forgives_done _

end Interceptor

open ModerationGateway.Words

theorem forgives_screenPrompt (hopen : c.failurePolicy = .failOpen) (prompt : String) :
    (screenPrompt (some c) prompt).Forgives := by
  constructor
  · intro message code
    simp only [resolvePrompt, hopen]
  · intro v
    exact forgives_done _

theorem forgives_screen (hopen : c.failurePolicy = .failOpen) (words : Option SensitiveWords)
    (body : Bytes) (cache : MatcherCache) (source : WordSource) :
    (screen words (some c) body cache source).2.Forgives := by
  unfold screen
  dsimp only
  split
  · exact forgives_done _
  · split
    · exact forgives_screenPrompt hopen _
    · exact forgives_done _

end ModerationGateway.Moderation
