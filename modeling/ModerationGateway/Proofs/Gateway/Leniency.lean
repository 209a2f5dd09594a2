import ModerationGateway.Proofs.Gateway.Answers
import ModerationGateway.Proofs.Moderation.Chunking
import ModerationGateway.Proofs.Moderation.Leniency

/-!
# Errors that count as passes

Under a rule that fails open a checker that has no answer is as good as one that passes the text,
for requests that are screened, for event streams, and for documents.

* `inStep_byIndex`: sequences of verdicts that differ in errors that become passes;
* `response_moderateDocument_of_softens`: documents;
* `IsLenient`, `isLenient_of_failOpen`: the whole.
-/

namespace ModerationGateway.Gateway

open ModerationGateway.Http ModerationGateway.Moderation ModerationGateway.Stream
open ModerationGateway.Words

variable {σ : Type} {c : ContentSecurity}

/-- Verdicts that become passes where they are errors come from judges in step. -/
theorem inStep_byIndex {f f' : Nat → String → Verdict}
    (h : ∀ n text, (f n text).Softens (f' n text)) :
    Consult.InStep Eq (Interceptor.byIndex f) (Interceptor.byIndex f') := by
  rintro n m rfl q
  exact ⟨h n q.text, rfl⟩

/-- A document whose verdict is an error has the response that a pass would lead to. -/
theorem resolveReply_of_softens {v v' : Verdict} (h : v.Softens v') (status : Nat) :
    resolveReply .failOpen status v = resolveReply .failOpen status v' := by
  cases h with
  | refl => rfl
  | error message code => rfl

theorem response_moderateDocument_of_softens {g g' : Gate σ} (hg : g.settings = c)
    (hg' : g'.settings = c) (hopen : c.failurePolicy = .failOpen) {s s' : State σ}
    (h : ∀ text, (g.judge s.world ⟨.content, text⟩).1.Softens
      (g'.judge s'.world ⟨.content, text⟩).1) (r : Response) (came came' : Nat) :
    (moderateDocument g r came s).2 = (moderateDocument g' r came' s').2 := by
  unfold moderateDocument
  cases Arrival.collect r.body with
  | error message => rfl
  | ok bytes =>
    show (moderateBytes g r bytes came s).2 = (moderateBytes g' r bytes came' s').2
    have hreply := resolveReply_of_softens (h ((Chat.messageContent? bytes).getD "")) r.status
    rw [response_moderateBytes, response_moderateBytes, hg, hg', hopen, hreply]

/-- Two sequences of verdicts lead to the same under the settings of a rule. -/
structure IsLenient (c : ContentSecurity) (f f' : Nat → String → Verdict) : Prop where
  /-- From any state of a stream on, the next item is the same, and so are the state that is left,
  with its window and counts, and the number of questions. -/
  next : ∀ (p : Interceptor) (arrivals : List Arrival) (n : Nat),
    (Interceptor.next c p arrivals).run (Interceptor.byIndex f) n =
      (Interceptor.next c p arrivals).run (Interceptor.byIndex f') n
  /-- So are all items, and the last state. -/
  drain : ∀ (p : Interceptor) (arrivals : List Arrival) (n : Nat),
    (Interceptor.drain c p arrivals).run (Interceptor.byIndex f) n =
      (Interceptor.drain c p arrivals).run (Interceptor.byIndex f') n
  /-- The texts that are checked are the same. -/
  questions : ∀ (p : Interceptor) (arrivals : List Arrival) (n : Nat),
    (Interceptor.drain c p arrivals).questions (Interceptor.byIndex f) n =
      (Interceptor.drain c p arrivals).questions (Interceptor.byIndex f') n
  /-- Screening comes to the same outcome. -/
  screen : ∀ (words : Option SensitiveWords) (body : Bytes) (cache : MatcherCache)
    (source : WordSource) (n : Nat),
    ((screen words (some c) body cache source).2.run (Interceptor.byIndex f) n).1 =
      ((screen words (some c) body cache source).2.run (Interceptor.byIndex f') n).1
  /-- Two gates whose verdicts on a document differ in an error that becomes a pass give the same
  response. -/
  document : ∀ (σ : Type) (g g' : Gate σ) (s s' : State σ), g.settings = c → g'.settings = c →
    (∀ text, (g.judge s.world ⟨.content, text⟩).1.Softens
      (g'.judge s'.world ⟨.content, text⟩).1) →
    ∀ (r : Response) (came came' : Nat),
      (moderateDocument g r came s).2 = (moderateDocument g' r came' s').2

/-- Under a policy that fails open errors may become passes, any number of them and anywhere, and
nothing changes. -/
theorem isLenient_of_failOpen (hopen : c.failurePolicy = .failOpen)
    {f f' : Nat → String → Verdict} (h : ∀ n text, (f n text).Softens (f' n text)) :
    IsLenient c f f' := by
  have hstep := inStep_byIndex h
  constructor
  · intro p arrivals n
    obtain ⟨hresult, -, hafter⟩ :=
      (Interceptor.forgives_next hopen p arrivals).run_eq hstep (rfl : n = n)
    exact Prod.ext hresult hafter
  · intro p arrivals n
    obtain ⟨hresult, -, hafter⟩ :=
      (Interceptor.forgives_drain hopen p arrivals).run_eq hstep (rfl : n = n)
    exact Prod.ext hresult hafter
  · intro p arrivals n
    exact ((Interceptor.forgives_drain hopen p arrivals).run_eq hstep (rfl : n = n)).2.1
  · intro words body cache source n
    exact ((forgives_screen hopen words body cache source).run_eq hstep (rfl : n = n)).1
  · intro σ g g' s s' hg hg' hsoftens r came came'
    exact response_moderateDocument_of_softens hg hg' hopen hsoftens r came came'

/-- The first text passes, and the checker has no answer on the others. -/
def answersOnce : Nat → String → Verdict := fun n _ =>
  if n = 0 then .pass else .error "no answer" "timeout"

/-- The checker passes every text. -/
def answersAlways : Nat → String → Verdict := fun _ _ => .pass

/-- The checks of a stream of which the second one has no answer, and of one that passes. -/
theorem isLenient_answersOnce :
    let c := Interceptor.openSettings
    (∀ n text, (answersOnce n text).Softens (answersAlways n text)) ∧
      answersOnce 1 "bcd" ≠ answersAlways 1 "bcd" ∧
      IsLenient c answersOnce answersAlways ∧
      (Interceptor.drain c (Interceptor.attach c ⟨0, false⟩)
        (Interceptor.cutChunks.map .chunk)).questions (Interceptor.byIndex answersAlways) 0 =
          [⟨.content, "a€b"⟩, ⟨.content, "bcd"⟩] := by
  intro c
  have hsoftens : ∀ n text, (answersOnce n text).Softens (answersAlways n text) := by
    intro n text
    unfold answersOnce answersAlways
    split
    · exact .refl _
    · exact .error _ _
  exact ⟨hsoftens, by decide, isLenient_of_failOpen rfl hsoftens, by decide +kernel⟩

end ModerationGateway.Gateway
