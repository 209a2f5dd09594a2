import ModerationGateway.Moderation.Gate
import ModerationGateway.Proofs.Breaker.Calm
import ModerationGateway.Proofs.Moderation.Delivery
import ModerationGateway.Proofs.Moderation.Leniency

/-!
# A stream alone behind its gate

If the checker has an answer for every text, in time, then a gate whose breaker has seen no failure
passes the answers on. What a stream comes to is then a function of the answers: neither the
breaker nor the identity of the guard has a part in it.

* `told`: a judge with an answer for every text;
* `Consult.run_eq_told`: whoever judges like this makes the same run;
* `Gate.Answers`, `Gate.IsServed`: the checker has an answer, and the breaker lets it through;
* `Gate.run_eq_told`: the gate then judges like this;
* `Request.named`, `settleAll_named`, `run_drain_named`: a request under another identity.
-/

namespace ModerationGateway.Stream

/-- The request under another identity. -/
def Request.named (id : RequestId) (q : Request) : Request :=
  { q with guard := { q.guard with id } }

end ModerationGateway.Stream

namespace ModerationGateway.Moderation

open ModerationGateway.Breaker ModerationGateway.Stream

variable {σ α : Type}

/-- A judge with an answer for every text. -/
def told (f : String → Verdict) : Consult.Judge Unit := fun _ q => (f q.text, ())

namespace Consult

variable {f : String → Verdict} {judge : Judge σ} {s : σ}

/-- A judge that gives these answers, and goes on giving them, makes the same run. -/
theorem run_eq_told {Good : σ → Prop}
    (hjudge : ∀ s, Good s → ∀ q, (judge s q).1 = f q.text ∧ Good (judge s q).2) (hs : Good s)
    (m : Consult α) :
    (m.run judge s).1 = (m.run (told f) ()).1 ∧
      m.exchanges judge s = m.exchanges (told f) () := by
  induction m generalizing s with
  | done a => exact ⟨rfl, rfl⟩
  | ask q next ih =>
    obtain ⟨hanswer, hgood⟩ := hjudge s hs q
    obtain ⟨hrun, hexchanges⟩ := ih (judge s q).1 hgood
    rw [hanswer] at hrun hexchanges
    rw [run_ask, run_ask, exchanges_ask, exchanges_ask, hanswer]
    exact ⟨hrun, congrArg _ hexchanges⟩

/-- If nobody is asked, it does not matter who judges. -/
theorem run_eq_of_exchanges_eq_nil {τ : Type} {other : Judge τ} {t : τ} {m : Consult α}
    (h : m.exchanges other t = []) (judge : Judge σ) (s : σ) :
    (m.run judge s).1 = (m.run other t).1 ∧ m.exchanges judge s = [] := by
  cases m with
  | done a => exact ⟨rfl, rfl⟩
  | ask q next => contradiction

end Consult

/-! ### The gate -/

namespace Gate

variable {g : Gate σ} {f : String → Verdict} {w : World σ}

/-- The checker has an answer for every text, and has it in time. -/
def Answers (g : Gate σ) (f : String → Verdict) : Prop :=
  ∀ q peers, ∃ ms, (g.checker.check g.settings q peers).1 = ⟨some ms, .ok (f q.text)⟩ ∧
    waitOf ms ≤ waitOf g.settings.breaker.timeoutMs.toNat

/-- The breaker of the gate has its settings, has seen no failure and has a permit. -/
def IsServed (g : Gate σ) (w : World σ) : Prop :=
  ∃ b, w.breakers.breaker? g.breaker = some b ∧ b.settings = g.settings.breaker ∧
    b.machine.IsCalm ∧ b.available ≠ 0

/-- The breaker of the gate has been called by nobody. -/
def IsUnused (g : Gate σ) (w : World σ) : Prop :=
  ∃ name now, w.breakers.breaker? g.breaker = some (.fresh name g.settings.breaker now)

theorem IsUnused.isServed (h : g.IsUnused w) (hpermits : 0 < g.settings.breaker.permits) :
    g.IsServed w := by
  obtain ⟨name, now, hb⟩ := h
  exact ⟨_, hb, rfl, Machine.isCalm_fresh now, Nat.pos_iff_ne_zero.1 hpermits⟩

theorem breaker?_update {r : Breaker.Registry} {id : BreakerId} {b : CircuitBreaker}
    (h : r.breaker? id = some b) (b' : CircuitBreaker) :
    (r.update id b').breaker? id = some b' := by
  obtain ⟨hid, -⟩ := List.getElem?_eq_some_iff.1 h
  simp [Registry.breaker?, Registry.update, hid]

/-- The gate passes the answer on, and can go on doing so. -/
theorem judge_of_isServed (hanswers : g.Answers f)
    (hthreshold : 1 ≤ g.settings.breaker.errorThresholdPercentage.toNat) (h : g.IsServed w)
    (q : Question) : (g.judge w q).1 = f q.text ∧ g.IsServed (g.judge w q).2 := by
  obtain ⟨b, hb, hsettings, hcalm, hpermit⟩ := h
  obtain ⟨ms, hwork, hms⟩ := hanswers q w.peers
  rw [← hsettings] at hthreshold hms
  obtain ⟨hresult, -, hafter, hstill, havailable⟩ :=
    CircuitBreaker.call_of_isCalm (ε := Fault) (a := f q.text) hcalm hthreshold hpermit w.now hms
  have hjudge : g.judge w q = g.putThrough b w q := by
    unfold judge
    rw [hb]
  rw [hjudge, putThrough]
  dsimp only
  rw [hwork, hresult]
  exact ⟨rfl, _, breaker?_update hb _, hafter.trans hsettings, hstill, havailable ▸ hpermit⟩

/-- The gate makes the run that the answers make. If there is no permit to be had, this is so for
computations that ask nobody. -/
theorem run_eq_told (hanswers : g.Answers f)
    (hthreshold : 1 ≤ g.settings.breaker.errorThresholdPercentage.toNat) (hw : g.IsUnused w)
    {m : Consult α} (h : 0 < g.settings.breaker.permits ∨ m.exchanges (told f) () = []) :
    (m.run g.judge w).1 = (m.run (told f) ()).1 ∧
      m.exchanges g.judge w = m.exchanges (told f) () := by
  rcases h with hpermits | hnone
  · exact Consult.run_eq_told (fun _ => judge_of_isServed hanswers hthreshold)
      (hw.isServed hpermits) m
  · obtain ⟨hrun, hexchanges⟩ :=
      Consult.run_eq_of_exchanges_eq_nil hnone g.judge w
    exact ⟨hrun, hexchanges.trans hnone.symm⟩

end Gate

/-! ### Another identity -/

variable {c : ContentSecurity} {q : Request} (id : RequestId)

/-- What a computation makes of a request, under another identity. -/
def renamed (m : Consult (Request × List Bytes)) : Consult (Request × List Bytes) :=
  m >>= fun x => .done (x.1.named id, x.2)

theorem resolve_named (policy : FailurePolicy) (q : Request) (batch : Batch) (v : Verdict) :
    resolve policy (q.named id) batch v =
      ((resolve policy q batch v).1.named id, (resolve policy q batch v).2) := by
  cases hv : v.refusal? policy with
  | none =>
    rw [resolve_of_cleared hv, resolve_of_cleared hv]
    rfl
  | some e =>
    rw [resolve_of_refused hv, resolve_of_refused hv]
    cases hq : q.payload <;> simp [refuse, Request.block, Request.named, hq]

theorem settle_named (hq : q.payload = none) (r : Round) :
    r.settle c (q.named id) = renamed id (r.settle c q) := by
  have hintake : r.intake (q.named id) =
      ((r.intake q).1.named id, (r.intake q).2) := by
    cases r with
    | full batch => rfl
    | last batch => cases batch <;> rfl
  have hchecked : r.isChecked c (q.named id) = r.isChecked c q := by
    unfold Round.isChecked
    rw [hintake]
    cases r <;> rfl
  rw [Round.settle_eq (q := q.named id) hq, Round.settle_eq hq, hchecked, hintake]
  split
  · have hresolve := resolve_named id c.failurePolicy
      { (r.intake q).1 with checks := (r.intake q).1.checks + 1 } r.batch
    exact congrArg (Consult.ask _) (funext fun v => congrArg Consult.done (hresolve v))
  · rfl

theorem settleAll_named (hq : q.payload = none) (rounds : List Round) :
    settleAll c (q.named id) rounds = renamed id (settleAll c q rounds) := by
  induction rounds generalizing q with
  | nil => rfl
  | cons r rounds ih =>
    simp only [settleAll_cons, andThen_eq, settle_named id hq, renamed, Consult.bind_assoc,
      Consult.done_bind]
    refine Consult.bind_congr fun x => ?_
    cases hx : x.1.isBlocked with
    | true =>
      have hnamed : (x.1.named id).isBlocked = true := hx
      simp [hnamed]
    | false =>
      have hnamed : (x.1.named id).isBlocked = false := hx
      simp only [hnamed, Bool.false_eq_true, if_false,
        ih (Request.isBlocked_eq_false_iff.1 hx), renamed, Consult.bind_assoc, Consult.done_bind]

namespace Interceptor

/-- What a stream comes to is the same under another identity. -/
theorem run_drain_named (c : ContentSecurity) (id other : RequestId) (arrivals : List Arrival)
    (judge : Consult.Judge σ) (s : σ) :
    let m := drain c (attach c ⟨id, false⟩) arrivals
    let m' := drain c (attach c ⟨other, false⟩) arrivals
    (m'.run judge s).1.1 = (m.run judge s).1.1 ∧
      (m'.run judge s).1.2.request.isBlocked = (m.run judge s).1.2.request.isBlocked ∧
      m'.exchanges judge s = m.exchanges judge s := by
  intro m m'
  obtain ⟨hitems, hrequest, -⟩ := run_drain c ⟨id, false⟩ arrivals judge s
  obtain ⟨hitems', hrequest', -⟩ := run_drain c ⟨other, false⟩ arrivals judge s
  have hsettled : settled c ⟨other, false⟩ arrivals =
      renamed other (settled c ⟨id, false⟩ arrivals) :=
    settleAll_named other (q := .ofGuard c.windowSize.toNat ⟨id, false⟩) rfl _
  have hrun : ((settled c ⟨other, false⟩ arrivals).run judge s).1 =
      (((settled c ⟨id, false⟩ arrivals).run judge s).1.1.named other,
        ((settled c ⟨id, false⟩ arrivals).run judge s).1.2) := by
    rw [hsettled, renamed, Consult.run_bind]
    rfl
  refine ⟨?_, ?_, ?_⟩
  · rw [hitems', hitems, hrun]
    rfl
  · rw [hrequest', hrequest, hrun]
    rfl
  · rw [exchanges_drain, exchanges_drain, hsettled, renamed, Consult.exchanges_bind]
    simp

end Interceptor

end ModerationGateway.Moderation
