import ModerationGateway.Proofs.Moderation.Delivery

/-!
# Decisions in a row

A stream stops at a refusal. A gate decides on whatever it is given, and after a refusal its answer
is the envelope again. A session is a row of decisions on one request, whoever calls for them.

* `Decision`, `Round.decision`: what is done with one round;
* `session`: rounds decided on one after the other, also after a refusal;
* `session_induction`: what every decision keeps, along a whole session;
* `exchangesIn_session`: a session asks what a stream of its rounds asks;
* `firstRefusal?`: the envelope of the first verdict that refuses;
* `Decision.IsBound`, `session_isBound`: this envelope is all that a request depends on, from the
  moment of the verdict to the end.
-/

namespace ModerationGateway.Stream.Request

@[simp] theorem checks_block (q : Request) (payload : Bytes) :
    (q.block payload).checks = q.checks := by
  unfold block
  split <;> rfl

end ModerationGateway.Stream.Request

namespace ModerationGateway.Moderation

open ModerationGateway.Stream

variable {σ : Type} {c : ContentSecurity} {judge : Consult.Judge σ} {s : σ} {q : Request}

/-! ### One decision -/

/-- A decision on a round: the questions with their verdicts, the pieces released, and the request
afterwards. -/
structure Decision where
  round : Round
  exchanges : List Exchange
  released : List Bytes
  after : Request

/-- The exchanges of some decisions. -/
def exchangesIn (ds : List Decision) : List Exchange := ds.flatMap (·.exchanges)

@[simp] theorem exchangesIn_nil : exchangesIn [] = [] := rfl

@[simp] theorem exchangesIn_singleton (d : Decision) : exchangesIn [d] = d.exchanges := by
  simp [exchangesIn]

theorem exchangesIn_cons (d : Decision) (ds : List Decision) :
    exchangesIn (d :: ds) = d.exchanges ++ exchangesIn ds := rfl

@[simp] theorem exchangesIn_append (ds more : List Decision) :
    exchangesIn (ds ++ more) = exchangesIn ds ++ exchangesIn more := by
  simp [exchangesIn]

namespace Round

/-- The decision on a round. -/
def decision (judge : Consult.Judge σ) (c : ContentSecurity) (q : Request) (s : σ) (r : Round) :
    Decision :=
  ⟨r, (r.settle c q).exchanges judge s, ((r.settle c q).run judge s).1.2,
    ((r.settle c q).run judge s).1.1⟩

@[simp] theorem round_decision (judge : Consult.Judge σ) (c : ContentSecurity) (q : Request)
    (s : σ) (r : Round) : (r.decision judge c q s).round = r := rfl

/-- A round is asked about once, or not at all. -/
theorem exchanges_settle (hq : q.payload = none) (r : Round) :
    (r.settle c q).exchanges judge s =
      if r.isChecked c q then
        [(windowQuestion (r.intake q).1, (judge s (windowQuestion (r.intake q).1)).1)]
      else [] := by
  rw [settle_eq hq]
  split <;> rfl

theorem exchanges_decision_ne_nil_iff (judge : Consult.Judge σ) (s : σ) (hq : q.payload = none)
    (r : Round) : (r.decision judge c q s).exchanges ≠ [] ↔ r.isChecked c q = true := by
  show (r.settle c q).exchanges judge s ≠ [] ↔ _
  rw [exchanges_settle hq]
  split <;> simp [*]

/-- A round is let go if no verdict on it refuses. -/
theorem isLetGo_of_cleared (hq : q.payload = none) (r : Round)
    (h : ∀ x ∈ (r.settle c q).exchanges judge s, x.2.refusal? c.failurePolicy = none) :
    IsLetGo c judge s (r.settle c q) r.raws := by
  rcases settle_isLetGo_or_isRefused c judge s hq r with hgo | ⟨e, hno⟩
  · exact hgo
  · obtain ⟨front, x, hxs, -, hx⟩ := hno.refused
    have hmem : x ∈ (r.settle c q).exchanges judge s := by
      rw [hxs]
      exact List.mem_append_right _ (List.mem_singleton_self x)
    rw [h x hmem] at hx
    contradiction

/-- A request that is blocked stays as it is, up to the number of batches. -/
theorem settle_of_payload {payload : Bytes} (h : q.payload = some payload) (r : Round) :
    ∃ batches, r.settle c q =
      .done ({ q with batches }, if r = .last none then [] else [payload]) := by
  cases r with
  | full batch => exact ⟨q.batches + 1, submit_of_isBlocked h batch⟩
  | last batch =>
    refine ⟨q.batches, (close_of_isBlocked h batch).trans ?_⟩
    cases batch <;> rfl

@[simp] theorem checks_intake (q : Request) (r : Round) : (r.intake q).1.checks = q.checks := by
  cases r with
  | full batch => rfl
  | last batch => cases batch <;> rfl

/-- The checks of a request are counted. -/
theorem checks_settle (r : Round) :
    ((r.settle c q).run judge s).1.1.checks =
      q.checks + ((r.settle c q).exchanges judge s).length := by
  cases hq : q.payload with
  | some payload =>
    obtain ⟨batches, hsettle⟩ := settle_of_payload (c := c) hq r
    simp [hsettle]
  | none =>
    rw [settle_eq hq]
    split
    · cases h : (judge s (windowQuestion (r.intake q).1)).1.refusal? c.failurePolicy with
      | none => simp [resolve_of_cleared h, letGo]
      | some e => simp [resolve_of_refused h, refuse]
    · simp

end Round

/-! ### Decisions one after the other -/

/-- The decisions on rounds in order, also on those that come after a refusal. -/
def session (judge : Consult.Judge σ) (c : ContentSecurity) (q : Request) (s : σ) :
    List Round → List Decision
  | [] => []
  | r :: rounds =>
    r.decision judge c q s ::
      session judge c ((r.settle c q).run judge s).1.1 ((r.settle c q).run judge s).2 rounds

theorem session_cons (judge : Consult.Judge σ) (c : ContentSecurity) (q : Request) (s : σ)
    (r : Round) (rounds : List Round) :
    session judge c q s (r :: rounds) =
      r.decision judge c q s ::
        session judge c (r.decision judge c q s).after ((r.settle c q).run judge s).2 rounds := rfl

/-- There is one decision for each round. -/
theorem map_round_session (judge : Consult.Judge σ) (c : ContentSecurity) (q : Request) (s : σ)
    (rounds : List Round) : (session judge c q s rounds).map (·.round) = rounds := by
  induction rounds generalizing q s with
  | nil => rfl
  | cons r rounds ih => rw [session_cons, List.map_cons, ih]; rfl

/-- What relates a request to the decisions made so far, if every decision keeps it, gives what
every decision of a session satisfies. -/
theorem session_induction (Inv : List Decision → Request → Prop)
    (P : List Decision → Decision → Prop)
    (hstep : ∀ earlier q s (r : Round), Inv earlier q → P earlier (r.decision judge c q s) ∧
      Inv (earlier ++ [r.decision judge c q s]) (r.decision judge c q s).after)
    {earlier : List Decision} (h : Inv earlier q) {rounds : List Round}
    {before after : List Decision} {d : Decision}
    (hds : session judge c q s rounds = before ++ d :: after) :
    P (earlier ++ before) d := by
  induction rounds generalizing earlier q s before with
  | nil => simp [session] at hds
  | cons r rounds ih =>
    obtain ⟨hhere, hlater⟩ := hstep earlier q s r h
    rw [session_cons] at hds
    cases before with
    | nil =>
      obtain ⟨rfl, -⟩ := List.cons.inj hds
      rwa [List.append_nil]
    | cons b before =>
      obtain ⟨rfl, hrest⟩ := List.cons.inj hds
      have hd := ih hlater hrest
      rwa [List.append_assoc] at hd

/-- Of a request that is blocked nobody is asked any more. -/
theorem exchangesIn_session_of_payload {payload : Bytes} (h : q.payload = some payload)
    (rounds : List Round) : exchangesIn (session judge c q s rounds) = [] := by
  induction rounds generalizing q s with
  | nil => rfl
  | cons r rounds ih =>
    obtain ⟨batches, hsettle⟩ := r.settle_of_payload (c := c) h
    rw [session, exchangesIn_cons, Round.decision, hsettle]
    exact ih h

/-- A stream that stops at a refusal asks what the session of its rounds asks. -/
theorem exchangesIn_session (hq : q.payload = none) (rounds : List Round) :
    exchangesIn (session judge c q s rounds) = (settleAll c q rounds).exchanges judge s := by
  induction rounds generalizing q s with
  | nil => rfl
  | cons r rounds ih =>
    rw [session, exchangesIn_cons, settleAll_cons]
    rcases settle_isLetGo_or_isRefused c judge s hq r with hgo | ⟨e, hno⟩
    · rw [ih hgo.payload, exchanges_andThen_of_isLetGo hgo]
      rfl
    · rw [exchangesIn_session_of_payload hno.payload, List.append_nil,
        exchanges_andThen_of_isRefused hno]
      rfl

/-- A decision on which a verdict refuses ends the stream: the rounds before it are all that is
released, and behind them its envelope. -/
theorem isRefused_of_session (hq : q.payload = none) {rounds : List Round}
    {before after : List Decision} {d : Decision}
    (hds : session judge c q s rounds = before ++ d :: after) {x : Exchange}
    (hx : x ∈ d.exchanges) {e : Envelope} (he : x.2.refusal? c.failurePolicy = some e) :
    IsRefused c judge s (settleAll c q rounds) (before.flatMap fun d => d.round.raws) e := by
  induction rounds generalizing q s before with
  | nil => simp [session] at hds
  | cons r rounds ih =>
    rw [session] at hds
    rw [settleAll_cons]
    have hround := settle_isLetGo_or_isRefused c judge s hq r
    cases before with
    | nil =>
      -- it is the first decision
      obtain ⟨rfl, -⟩ := List.cons.inj hds
      rcases hround with hgo | ⟨e', hno⟩
      · rw [hgo.cleared x hx] at he
        contradiction
      · obtain ⟨front, y, hxs, hfront, hy⟩ := hno.refused
        have hmem : x ∈ front ++ [y] := hxs ▸ hx
        have heq : e' = e := by
          rcases List.mem_append.1 hmem with hmem | hmem
          · rw [hfront x hmem] at he
            contradiction
          · rw [List.mem_singleton.1 hmem, hy] at he
            exact Option.some.inj he
        exact heq ▸ hno.andThen
    | cons b before =>
      obtain ⟨rfl, hrest⟩ := List.cons.inj hds
      rcases hround with hgo | ⟨e', hno⟩
      · exact hgo.andThen_isRefused (ih hgo.payload hrest)
      · -- after a refusal nobody is asked, so there is no verdict on it
        have hsilent : exchangesIn (session judge c ((r.settle c q).run judge s).1.1
            ((r.settle c q).run judge s).2 rounds) = [] :=
          exchangesIn_session_of_payload hno.payload rounds
        have hnone : d.exchanges = [] := by
          rw [hrest, List.append_eq, exchangesIn_append, exchangesIn_cons] at hsilent
          simp only [List.append_eq_nil_iff] at hsilent
          exact hsilent.2.1
        rw [hnone] at hx
        contradiction

/-! ### The first refusal -/

/-- The envelope that the first of some verdicts that refuses leads to. -/
def firstRefusal? (policy : FailurePolicy) (xs : List Exchange) : Option Envelope :=
  xs.findSome? fun x => x.2.refusal? policy

theorem firstRefusal?_append (policy : FailurePolicy) (xs more : List Exchange) :
    firstRefusal? policy (xs ++ more) =
      (firstRefusal? policy xs).or (firstRefusal? policy more) :=
  List.findSome?_append

theorem firstRefusal?_eq_none_iff {policy : FailurePolicy} {xs : List Exchange} :
    firstRefusal? policy xs = none ↔ ∀ x ∈ xs, x.2.refusal? policy = none :=
  List.findSome?_eq_none_iff

/-- A decision is bound by the verdicts before it and its own. -/
structure Decision.IsBound (policy : FailurePolicy) (before : List Decision) (d : Decision) :
    Prop where
  /-- The request is blocked from the first refusal on, and its payload is that envelope. -/
  payload : d.after.payload =
    (firstRefusal? policy (exchangesIn (before ++ [d]))).map Envelope.bytes
  /-- Before the first refusal the pieces of the round are released. -/
  letGo : firstRefusal? policy (exchangesIn (before ++ [d])) = none → d.released = d.round.raws
  /-- The first refusal: the verdict, its envelope, and what is released. -/
  refused : ∀ e, firstRefusal? policy (exchangesIn before) = none →
    firstRefusal? policy (exchangesIn (before ++ [d])) = some e →
      d.released = [e.bytes] ∧ ∃ question verdict, d.exchanges = [(question, verdict)] ∧
        ((∃ reason vendor, verdict = .block reason vendor ∧ e = .responseViolation reason ∧
            e.code = 1401) ∨
          (policy = .failClosed ∧ ∃ message code, verdict = .error message code ∧
            e = .unavailable code ∧ e.code = 1503))
  /-- After it nobody is asked, and its envelope is released unless there is no batch. -/
  bound : ∀ e, firstRefusal? policy (exchangesIn before) = some e →
    d.exchanges = [] ∧ d.released = if d.round = .last none then [] else [e.bytes]
  /-- After it the request does not change any more, up to the number of batches. -/
  still : ∀ d' ∈ before, d'.after.isBlocked = true →
    d.after.window = d'.after.window ∧ d.after.checks = d'.after.checks ∧
      d.after.payload = d'.after.payload

/-- A decision is one of three: on a request that is blocked already, without a refusal, or the
refusal itself. -/
theorem Round.decision_cases (judge : Consult.Judge σ) (c : ContentSecurity) (q : Request) (s : σ)
    (r : Round) :
    let d := r.decision judge c q s
    (∃ payload batches, q.payload = some payload ∧
        d = ⟨r, [], if r = .last none then [] else [payload], { q with batches }⟩) ∨
      (q.payload = none ∧ d.after.payload = none ∧ d.released = r.raws ∧
        firstRefusal? c.failurePolicy d.exchanges = none) ∨
      ∃ e x, q.payload = none ∧ d.after.payload = some e.bytes ∧ d.released = [e.bytes] ∧
        d.exchanges = [x] ∧ x.2.refusal? c.failurePolicy = some e := by
  intro d
  rcases Option.eq_none_or_eq_some q.payload with hq | ⟨payload, hq⟩
  · rcases settle_isLetGo_or_isRefused c judge s hq r with hgo | ⟨e, hno⟩
    · exact .inr (.inl ⟨hq, hgo.payload, hgo.released, firstRefusal?_eq_none_iff.2 hgo.cleared⟩)
    · obtain ⟨front, x, hxs, -, hx⟩ := hno.refused
      refine .inr (.inr ⟨e, x, hq, hno.payload, hno.released, ?_, hx⟩)
      -- the verdict that refuses is the only one
      have hone : ((r.settle c q).exchanges judge s).length ≤ 1 := by
        rw [exchanges_settle hq]
        split <;> simp
      rw [hxs, List.length_append, List.length_singleton] at hone
      have hfront : front = [] := List.length_eq_zero_iff.1 (by omega)
      show (r.settle c q).exchanges judge s = [x]
      rw [hxs, hfront, List.nil_append]
  · obtain ⟨batches, hsettle⟩ := settle_of_payload (c := c) hq r
    refine .inl ⟨payload, batches, hq, ?_⟩
    simp only [d, decision, hsettle]
    rfl

/-- The request knows the first refusal, and is as the decision on it has left it. -/
structure KeepsRefusal (policy : FailurePolicy) (earlier : List Decision) (q : Request) : Prop where
  payload : q.payload = (firstRefusal? policy (exchangesIn earlier)).map Envelope.bytes
  still : ∀ d ∈ earlier, d.after.isBlocked = true →
    q.window = d.after.window ∧ q.checks = d.after.checks ∧ q.payload = d.after.payload

namespace KeepsRefusal

variable {earlier : List Decision}

/-- A request that is not blocked was never left blocked. -/
theorem isBlocked_eq_false (h : KeepsRefusal c.failurePolicy earlier q) (hq : q.payload = none)
    {d : Decision} (hd : d ∈ earlier) : d.after.isBlocked = false := by
  refine Bool.eq_false_iff.2 fun hblocked => ?_
  have hpayload := (h.still d hd hblocked).2.2
  rw [Request.isBlocked, ← hpayload, hq] at hblocked
  contradiction

theorem firstRefusal?_eq_none (h : KeepsRefusal c.failurePolicy earlier q)
    (hq : q.payload = none) : firstRefusal? c.failurePolicy (exchangesIn earlier) = none := by
  have hpayload := h.payload
  rw [hq] at hpayload
  exact Option.map_eq_none_iff.1 hpayload.symm

/-- A decision does not change what an earlier refusal has left. -/
theorem still_decision (h : KeepsRefusal c.failurePolicy earlier q) (judge : Consult.Judge σ)
    (s : σ) (r : Round) :
    ∀ d ∈ earlier, d.after.isBlocked = true →
      (r.decision judge c q s).after.window = d.after.window ∧
        (r.decision judge c q s).after.checks = d.after.checks ∧
        (r.decision judge c q s).after.payload = d.after.payload := by
  intro d hd hblocked
  rcases r.decision_cases judge c q s with
    ⟨payload, batches, -, hdecision⟩ | ⟨hq, -⟩ | ⟨e, x, hq, -⟩
  · rw [hdecision]
    exact h.still d hd hblocked
  · rw [h.isBlocked_eq_false hq hd] at hblocked
    contradiction
  · rw [h.isBlocked_eq_false hq hd] at hblocked
    contradiction

/-- After a decision the request is blocked if it was, or if the verdict refuses. -/
theorem payload_decision (h : KeepsRefusal c.failurePolicy earlier q) (judge : Consult.Judge σ)
    (s : σ) (r : Round) :
    (r.decision judge c q s).after.payload =
      (firstRefusal? c.failurePolicy (exchangesIn (earlier ++ [r.decision judge c q s]))).map
        Envelope.bytes := by
  rw [exchangesIn_append, exchangesIn_singleton, firstRefusal?_append]
  rcases r.decision_cases judge c q s with
    ⟨payload, batches, hq, hd⟩ | ⟨hq, hafter, -, hnone⟩ | ⟨e, x, hq, hafter, -, hxs, hx⟩
  · have hpayload := h.payload
    rw [hd]
    simpa [firstRefusal?] using hpayload
  · rw [hafter, h.firstRefusal?_eq_none hq, hnone]
    rfl
  · rw [hafter, h.firstRefusal?_eq_none hq, hxs]
    simp [firstRefusal?, hx]

theorem isBound_decision (h : KeepsRefusal c.failurePolicy earlier q) (judge : Consult.Judge σ)
    (s : σ) (r : Round) :
    (r.decision judge c q s).IsBound c.failurePolicy earlier := by
  have hpayload := h.payload_decision judge s r
  have hstill := h.still_decision judge s r
  rcases r.decision_cases judge c q s with
    ⟨payload, batches, hq, hd⟩ | ⟨hq, hafter, hreleased, -⟩ | ⟨e, x, hq, hafter, hreleased, hxs, hx⟩
  · -- the request is blocked already
    have hblocked := h.payload
    rw [hq] at hblocked
    obtain ⟨e, he, hbytes⟩ := Option.map_eq_some_iff.1 hblocked.symm
    constructor
    case payload => exact hpayload
    case letGo =>
      intro hnone
      rw [exchangesIn_append, firstRefusal?_append, he] at hnone
      contradiction
    case refused =>
      intro _ hnone
      rw [he] at hnone
      contradiction
    case bound =>
      intro e' he'
      obtain rfl : e = e' := Option.some.inj (he.symm.trans he')
      rw [hd, hbytes]
      exact ⟨rfl, rfl⟩
    case still => exact hstill
  · -- nothing has been refused so far
    have hnone := h.firstRefusal?_eq_none hq
    rw [hafter] at hpayload
    have hfree := Option.map_eq_none_iff.1 hpayload.symm
    constructor
    case payload => rw [hafter]; exact hpayload
    case letGo => exact fun _ => hreleased
    case refused =>
      intro e _ he
      rw [hfree] at he
      contradiction
    case bound =>
      intro e he
      rw [hnone] at he
      contradiction
    case still => exact hstill
  · -- this is the refusal
    have hnone := h.firstRefusal?_eq_none hq
    have hfirst : firstRefusal? c.failurePolicy
        (exchangesIn (earlier ++ [r.decision judge c q s])) = some e := by
      rw [exchangesIn_append, exchangesIn_singleton, firstRefusal?_append, hnone, hxs]
      simp [firstRefusal?, hx]
    constructor
    case payload => exact hpayload
    case letGo =>
      intro hnone
      rw [hfirst] at hnone
      contradiction
    case refused =>
      intro e' _ he'
      obtain rfl : e = e' := Option.some.inj (hfirst.symm.trans he')
      refine ⟨hreleased, x.1, x.2, hxs, ?_⟩
      rcases Verdict.refusal?_eq_some_iff.1 hx with
        ⟨reason, vendor, hverdict, rfl⟩ | ⟨hpolicy, message, code, hverdict, rfl⟩
      · exact .inl ⟨reason, vendor, hverdict, rfl, rfl⟩
      · exact .inr ⟨hpolicy, message, code, hverdict, rfl, rfl⟩
    case bound =>
      intro e' he'
      rw [hnone] at he'
      contradiction
    case still => exact hstill

theorem concat (h : KeepsRefusal c.failurePolicy earlier q) (judge : Consult.Judge σ)
    (s : σ) (r : Round) :
    KeepsRefusal c.failurePolicy (earlier ++ [r.decision judge c q s])
      (r.decision judge c q s).after := by
  refine ⟨h.payload_decision judge s r, fun d hd hblocked => ?_⟩
  rcases List.mem_append.1 hd with hd | hd
  · exact h.still_decision judge s r d hd hblocked
  · rw [List.mem_singleton.1 hd]
    exact ⟨rfl, rfl, rfl⟩

end KeepsRefusal

/-- Every decision of a session is bound by the verdicts before it and its own. -/
theorem session_isBound (c : ContentSecurity) (guard : Guard) (windowSize : Nat)
    (rounds : List Round) (judge : Consult.Judge σ) (s : σ) :
    let ds := session judge c (.ofGuard windowSize guard) s rounds
    ds.map (·.round) = rounds ∧
      ∀ before d after, ds = before ++ d :: after → d.IsBound c.failurePolicy before := by
  refine ⟨map_round_session judge c _ s rounds, fun before d after hds => ?_⟩
  have hstart : KeepsRefusal c.failurePolicy [] (.ofGuard windowSize guard) :=
    ⟨rfl, fun d hd => absurd hd List.not_mem_nil⟩
  have hbound := session_induction (KeepsRefusal c.failurePolicy)
    (fun before d => d.IsBound c.failurePolicy before)
    (fun earlier q s r h => ⟨h.isBound_decision judge s r, h.concat judge s r⟩) hstart hds
  rwa [List.nil_append] at hbound

/-- A batch with a frame for every text. -/
def batchOf (texts : List String) : Batch := (Assembler.empty.feed (texts.flatMap deltaEvent)).2

/-- Under a policy that fails closed the verdict on the second batch is a refusal, and the last
batch is answered with the same envelope. -/
theorem session_isBound_passOnce :
    let c := { Interceptor.openSettings with failurePolicy := .failClosed }
    let ds := session Interceptor.passOnce c (.ofGuard 3 ⟨0, false⟩) 0
      [.full (batchOf ["ab"]), .full (batchOf ["c"]), .last (some (batchOf ["d"]))]
    ds.map (·.released) = [(batchOf ["ab"]).raws, [(Envelope.unavailable "timeout").bytes],
        [(Envelope.unavailable "timeout").bytes]] ∧
      ∃ first second third, ds = [first, second, third] ∧ first.IsBound .failClosed [] ∧
        second.IsBound .failClosed [first] ∧ third.IsBound .failClosed [first, second] := by
  intro c ds
  obtain ⟨-, hbound⟩ := session_isBound c ⟨0, false⟩ 3
    [.full (batchOf ["ab"]), .full (batchOf ["c"]), .last (some (batchOf ["d"]))]
    Interceptor.passOnce 0
  exact ⟨by decide +kernel, _, _, _, rfl, hbound [] _ _ rfl, hbound [_] _ _ rfl,
    hbound [_, _] _ _ rfl⟩

end ModerationGateway.Moderation
