import ModerationGateway.Proofs.Moderation.Delivery

/-!
# The order of things in a stream

The record of a run says what was asked and what was handed out, and not what came first. The log
of a stream puts it all in one line: arrivals that are pulled, questions with their verdicts, items
handed out.

* `Event`, `Interceptor.log`: the log, for a client that takes every item;
* `items_log`, `exchanges_log`, `arrivals_log`: the log is that of `drain`;
* `IsFront`, `Takes`, `takes_log`: the log is that of `next`, item by item, until there is none;
* `silentAfterRefusal_log`: after a refusal only pieces that wait are handed out, so that nobody is
  asked and nothing is pulled any more.
-/

namespace ModerationGateway.Moderation

open ModerationGateway.Stream

/-- What happens in a stream; no arrival means that the end was pulled. -/
inductive Event where
  | pulled (arrival : Option Arrival)
  | asked (x : Exchange)
  | handed (item : Interceptor.Item)

namespace Event

/-- The item handed out. -/
def item? : Event → Option Interceptor.Item
  | handed item => some item
  | _ => none

/-- The exchange with the checker. -/
def exchange? : Event → Option Exchange
  | asked x => some x
  | _ => none

/-- The arrival pulled. -/
def arrival? : Event → Option Arrival
  | pulled arrival => arrival
  | _ => none

@[simp] theorem items_pulled (arrival : Option Arrival) (events : List Event) :
    (pulled arrival :: events).filterMap item? = events.filterMap item? := rfl

@[simp] theorem items_handed (item : Interceptor.Item) (events : List Event) :
    (handed item :: events).filterMap item? = item :: events.filterMap item? := rfl

@[simp] theorem exchanges_pulled (arrival : Option Arrival) (events : List Event) :
    (pulled arrival :: events).filterMap exchange? = events.filterMap exchange? := rfl

@[simp] theorem exchanges_handed (item : Interceptor.Item) (events : List Event) :
    (handed item :: events).filterMap exchange? = events.filterMap exchange? := rfl

@[simp] theorem arrivals_pulled (arrival : Option Arrival) (events : List Event) :
    (pulled arrival :: events).filterMap arrival? =
      arrival.toList ++ events.filterMap arrival? := by
  cases arrival <;> rfl

@[simp] theorem arrivals_handed (item : Interceptor.Item) (events : List Event) :
    (handed item :: events).filterMap arrival? = events.filterMap arrival? := rfl

/-- A verdict that refuses. -/
def Refuses (policy : FailurePolicy) : Event → Prop
  | asked x => x.2.refusal? policy ≠ none
  | _ => False

/-- Some bytes handed out. -/
def IsPiece : Event → Prop
  | handed (.ok _) => True
  | _ => False

end Event

/-- Whatever comes after a refusal is a piece handed out. -/
def SilentAfterRefusal (policy : FailurePolicy) (events : List Event) : Prop :=
  events.Pairwise fun earlier later => earlier.Refuses policy → later.IsPiece

namespace Interceptor

variable {σ : Type} {c : ContentSecurity} {judge : Consult.Judge σ}

/-- What waits, handed out. -/
def handedOut (queue : List Bytes) : List Event := queue.map fun bytes => .handed (.ok bytes)

/-- Some exchanges with the checker. -/
def asking (xs : List Exchange) : List Event := xs.map .asked

/-- The log of a stream for a client that takes every item. -/
def log (judge : Consult.Judge σ) (c : ContentSecurity) (p : Interceptor) (s : σ) :
    List Arrival → List Event
  | [] =>
    handedOut p.queue ++
      if p.isDone then []
      else
        let m := onEnd c { p with queue := [] }
        .pulled none :: asking (m.exchanges judge s) ++ handedOut (m.run judge s).1.queue
  | arrival :: rest =>
    handedOut p.queue ++
      if p.isDone then []
      else
        .pulled (some arrival) ::
          match arrival with
          | .failed message => [.handed (.error (.backend message))]
          | .chunk bytes =>
            let m := onChunk c { p with queue := [] } bytes
            asking (m.exchanges judge s) ++ log judge c (m.run judge s).1 (m.run judge s).2 rest

@[simp] theorem items_asking (xs : List Exchange) : (asking xs).filterMap Event.item? = [] := by
  simp [asking, Event.item?]

@[simp] theorem exchanges_asking (xs : List Exchange) :
    (asking xs).filterMap Event.exchange? = xs := by
  simp [asking, Event.exchange?, Function.comp_def]

@[simp] theorem arrivals_asking (xs : List Exchange) :
    (asking xs).filterMap Event.arrival? = [] := by
  simp [asking, Event.arrival?]

@[simp] theorem items_handedOut (queue : List Bytes) :
    (handedOut queue).filterMap Event.item? = queue.map .ok := by
  simp [handedOut, Event.item?, Function.comp_def]

@[simp] theorem exchanges_handedOut (queue : List Bytes) :
    (handedOut queue).filterMap Event.exchange? = [] := by
  simp [handedOut, Event.exchange?]

/-- The items of the log are those that the client has. -/
theorem items_log (p : Interceptor) (s : σ) (arrivals : List Arrival) :
    (log judge c p s arrivals).filterMap Event.item? =
      ((drain c p arrivals).run judge s).1.1 := by
  induction arrivals generalizing p s with
  | nil =>
    by_cases h : p.isDone = true
    · simp [log, drain, popAll, h]
    · simp [log, drain, popAll, h, Consult.run_bind]
  | cons arrival rest ih =>
    by_cases h : p.isDone = true
    · simp [log, drain, popAll, h]
    · cases arrival with
      | chunk bytes => simp [log, drain, popAll, h, Consult.run_bind, ih]
      | failed message => simp [log, drain, popAll, h]

/-- The exchanges of the log are those of the run. -/
theorem exchanges_log (p : Interceptor) (s : σ) (arrivals : List Arrival) :
    (log judge c p s arrivals).filterMap Event.exchange? =
      (drain c p arrivals).exchanges judge s := by
  induction arrivals generalizing p s with
  | nil =>
    by_cases h : p.isDone = true
    · simp [log, drain, popAll, h]
    · simp [log, drain, popAll, h, Consult.exchanges_bind]
  | cons arrival rest ih =>
    by_cases h : p.isDone = true
    · simp [log, drain, popAll, h]
    · cases arrival with
      | chunk bytes => simp [log, drain, popAll, h, Consult.exchanges_bind, ih]
      | failed message => simp [log, drain, popAll, h]

@[simp] theorem arrivals_handedOut (queue : List Bytes) :
    (handedOut queue).filterMap Event.arrival? = [] := by
  simp [handedOut, Event.arrival?]

/-- Arrivals are pulled in order. -/
theorem arrivals_log (p : Interceptor) (s : σ) (arrivals : List Arrival) :
    (log judge c p s arrivals).filterMap Event.arrival? <+: arrivals := by
  induction arrivals generalizing p s with
  | nil =>
    by_cases h : p.isDone = true
    · simp [log, h]
    · simp [log, h]
  | cons arrival rest ih =>
    by_cases h : p.isDone = true
    · simp [log, h]
    · cases arrival with
      | chunk bytes => simpa [log, h] using ih _ _
      | failed message => simp [log, h]

/-! ### One item at a time -/

/-- The log from an item on. -/
def logFrom (judge : Consult.Judge σ) (c : ContentSecurity) :
    (Option Item × Interceptor × List Arrival) × σ → List Event
  | ((none, _, _), _) => []
  | ((some item, p, rest), s) => .handed item :: log judge c p s rest

theorem log_of_isDone (judge : Consult.Judge σ) (c : ContentSecurity) {p : Interceptor}
    (h : p.isDone = true) (s : σ) (arrivals : List Arrival) :
    log judge c p s arrivals = handedOut p.queue := by
  cases arrivals <;> simp [log, h]

theorem log_queue (judge : Consult.Judge σ) (c : ContentSecurity) (p : Interceptor) (s : σ)
    (arrivals : List Arrival) :
    log judge c p s arrivals =
      handedOut p.queue ++ log judge c { p with queue := [] } s arrivals := by
  cases arrivals with
  | nil => simp [log, handedOut]
  | cons arrival rest => cases arrival <;> simp [log, handedOut]

/-- Where no arrival is needed the next item is what waits first. -/
theorem log_eq_logFrom_pop (judge : Consult.Judge σ) (c : ContentSecurity) {p : Interceptor}
    (h : (p.queue.isEmpty && !p.isDone) = false) (s : σ) (arrivals : List Arrival) :
    log judge c p s arrivals = logFrom judge c ((p.pop.1, p.pop.2, arrivals), s) := by
  cases hqueue : p.queue with
  | nil =>
    have hdone : p.isDone = true := by simpa [hqueue] using h
    simp [log_of_isDone judge c hdone, pop, hqueue, logFrom, handedOut]
  | cons bytes queue =>
    have hlater := log_queue judge c { p with queue } s arrivals
    rw [log_queue]
    simp only [pop, hqueue, logFrom, hlater]
    rfl

/-- What happens up to the next item: nothing is handed out, and the questions and the arrivals are
those that this item takes. -/
structure IsFront (judge : Consult.Judge σ) (c : ContentSecurity) (p : Interceptor) (s : σ)
    (arrivals : List Arrival) (front : List Event) : Prop where
  exchanges : front.filterMap Event.exchange? = (next c p arrivals).exchanges judge s
  arrivals : front.filterMap Event.arrival? ++ ((next c p arrivals).run judge s).1.2.2 = arrivals
  items : front.filterMap Event.item? = []

/-- A client takes one item after the other until there is none. In between it all happens that the
items take, and in the end there are an interceptor and a state of the judge. -/
inductive Takes (judge : Consult.Judge σ) (c : ContentSecurity) :
    Interceptor → σ → List Arrival → List Event → Interceptor × σ → Prop where
  | ended {p p' : Interceptor} {s s' : σ} {arrivals rest : List Arrival} {front : List Event}
      (hnext : (next c p arrivals).run judge s = ((none, p', rest), s'))
      (hfront : IsFront judge c p s arrivals front) :
      Takes judge c p s arrivals front (p', s')
  | took {p p' : Interceptor} {s s' : σ} {arrivals rest : List Arrival} {front events : List Event}
      {item : Item} {last : Interceptor × σ}
      (hnext : (next c p arrivals).run judge s = ((some item, p', rest), s'))
      (hfront : IsFront judge c p s arrivals front)
      (hrest : Takes judge c p' s' rest events last) :
      Takes judge c p s arrivals (front ++ .handed item :: events) last

/-- Where no arrival is needed nothing happens before the next item. -/
theorem isFront_nil {p : Interceptor} (h : (p.queue.isEmpty && !p.isDone) = false) (s : σ)
    (arrivals : List Arrival) : IsFront judge c p s arrivals [] where
  exchanges := by
    rw [next_of_ready h]
    rfl
  arrivals := by
    rw [next_of_ready h]
    rfl
  items := rfl

/-- The log begins with what happens up to the next item. -/
theorem log_eq_next (p : Interceptor) (s : σ) (arrivals : List Arrival) :
    ∃ front, IsFront judge c p s arrivals front ∧
      log judge c p s arrivals = front ++ logFrom judge c ((next c p arrivals).run judge s) := by
  induction arrivals generalizing p s with
  | nil =>
    cases h : p.queue.isEmpty && !p.isDone with
    | false =>
      refine ⟨[], isFront_nil h s [], ?_⟩
      rw [next_of_ready h]
      exact log_eq_logFrom_pop judge c h s []
    | true =>
      obtain ⟨hqueue, hdone⟩ : p.queue = [] ∧ p.isDone = false := by simpa using h
      have hp : { p with queue := [], isDone := false } = p := by rw [← hqueue, ← hdone]
      have hended := Consult.Yields.run (onEnd_yields_isDone c p) judge s
      have hrest := log_eq_logFrom_pop judge c (p := ((onEnd c p).run judge s).1)
        (by simp [hended]) ((onEnd c p).run judge s).2 []
      rw [log_of_isDone judge c hended] at hrest
      refine ⟨.pulled none :: asking ((onEnd c p).exchanges judge s), ⟨?_, ?_, ?_⟩, ?_⟩
      · simp [next, h, Consult.exchanges_bind]
      · simp [next, h, Consult.run_bind]
      · simp
      · simp [log, next, handedOut, hqueue, hdone, hp, Consult.run_bind, ← hrest]
  | cons arrival rest ih =>
    cases h : p.queue.isEmpty && !p.isDone with
    | false =>
      refine ⟨[], isFront_nil h s _, ?_⟩
      rw [next_of_ready h]
      exact log_eq_logFrom_pop judge c h s _
    | true =>
      obtain ⟨hqueue, hdone⟩ : p.queue = [] ∧ p.isDone = false := by simpa using h
      have hp : { p with queue := [], isDone := false } = p := by rw [← hqueue, ← hdone]
      cases arrival with
      | failed message =>
        refine ⟨[.pulled (some (.failed message))], ⟨?_, ?_, rfl⟩, ?_⟩
        · simp [next, h]
        · simp [next, h, Event.arrival?]
        · simp [log, next, handedOut, hqueue, hdone, logFrom, log_of_isDone]
      | chunk bytes =>
        obtain ⟨front, ⟨hexchanges, harrivals, hitems⟩, hlog⟩ :=
          ih ((onChunk c p bytes).run judge s).1 ((onChunk c p bytes).run judge s).2
        refine ⟨.pulled (some (.chunk bytes)) ::
          asking ((onChunk c p bytes).exchanges judge s) ++ front, ⟨?_, ?_, ?_⟩, ?_⟩
        · simp [next, h, Consult.exchanges_bind, hexchanges]
        · simpa [next, h, Consult.run_bind] using harrivals
        · simp [hitems]
        · simp [log, next, handedOut, hqueue, hdone, hp, Consult.run_bind, hlog]

/-- The log of a stream is what happens while the client takes one item after the other, and the
interceptor that is left is the one that has handed out all of them. -/
theorem takes_log (p : Interceptor) (s : σ) (arrivals : List Arrival) :
    Takes judge c p s arrivals (log judge c p s arrivals)
      (((drain c p arrivals).run judge s).1.2, ((drain c p arrivals).run judge s).2) := by
  -- behind an item the log is shorter
  induction hlength : (log judge c p s arrivals).length using Nat.strongRecOn
    generalizing p s arrivals with
  | ind n ih =>
    obtain ⟨front, hfront, hlog⟩ := log_eq_next p s arrivals
    rw [drain_eq_next, Consult.run_bind]
    generalize hnext : (next c p arrivals).run judge s = x at hlog
    obtain ⟨⟨item, p', rest⟩, s'⟩ := x
    cases item with
    | none =>
      rw [hlog, logFrom, List.append_nil]
      exact .ended hnext hfront
    | some item =>
      have hshorter : (log judge c p' s' rest).length < n := by
        rw [← hlength, hlog, logFrom, List.length_append, List.length_cons]
        omega
      rw [hlog, logFrom, withRest, Consult.run_bind]
      exact .took hnext hfront (ih _ hshorter p' s' rest rfl)

/-! ### After a refusal -/

section Refusal

variable {policy : FailurePolicy}

/-- Events that do not refuse may stand before any others. -/
theorem silentAfterRefusal_append {front events : List Event}
    (hfront : ∀ e ∈ front, ¬ e.Refuses policy) (hevents : SilentAfterRefusal policy events) :
    SilentAfterRefusal policy (front ++ events) := by
  induction front with
  | nil => exact hevents
  | cons e front ih =>
    refine List.Pairwise.cons (fun b _ he => absurd he (hfront e (by simp))) ?_
    exact ih fun e he => hfront e (by simp [he])

theorem silentAfterRefusal_pulled (arrival : Option Arrival) {events : List Event}
    (hevents : SilentAfterRefusal policy events) :
    SilentAfterRefusal policy (.pulled arrival :: events) :=
  List.Pairwise.cons (fun _ _ hrefuses => absurd hrefuses id) hevents

theorem isPiece_of_mem_handedOut {queue : List Bytes} {e : Event} (h : e ∈ handedOut queue) :
    e.IsPiece := by
  obtain ⟨bytes, -, rfl⟩ := List.mem_map.1 h
  trivial

theorem silentAfterRefusal_handedOut_append (policy : FailurePolicy) (queue : List Bytes)
    {events : List Event}
    (hevents : SilentAfterRefusal policy events) :
    SilentAfterRefusal policy (handedOut queue ++ events) := by
  refine silentAfterRefusal_append (fun e he => ?_) hevents
  obtain ⟨bytes, -, rfl⟩ := List.mem_map.1 he
  exact id

theorem silentAfterRefusal_handedOut (queue : List Bytes) :
    SilentAfterRefusal policy (handedOut queue) := by
  have h := silentAfterRefusal_handedOut_append policy queue List.Pairwise.nil
  rwa [List.append_nil] at h

/-- Only the last of some exchanges may refuse, and only if pieces alone follow. -/
theorem silentAfterRefusal_asked_append {xs : List Exchange} {events : List Event}
    (hxs : (∀ x ∈ xs, x.2.refusal? policy = none) ∨
      (∃ earlier x, xs = earlier ++ [x] ∧ ∀ y ∈ earlier, y.2.refusal? policy = none) ∧
        ∀ e ∈ events, e.IsPiece)
    (hevents : SilentAfterRefusal policy events) :
    SilentAfterRefusal policy (asking xs ++ events) := by
  have hcleared : ∀ ys : List Exchange, (∀ y ∈ ys, y.2.refusal? policy = none) →
      ∀ e ∈ asking ys, ¬ e.Refuses policy := by
    intro ys hys e he hrefuses
    obtain ⟨y, hy, rfl⟩ := List.mem_map.1 he
    exact hrefuses (hys y hy)
  rcases hxs with hxs | ⟨⟨earlier, x, rfl, hearlier⟩, hpieces⟩
  · exact silentAfterRefusal_append (hcleared xs hxs) hevents
  · rw [asking, List.map_append, List.append_assoc]
    refine silentAfterRefusal_append (hcleared earlier hearlier) ?_
    exact List.Pairwise.cons (fun b hb _ => hpieces b hb) hevents

/-- An interceptor goes on after some frames only if no verdict on them refused. -/
theorem onFrames_cleared_or_isDone (judge : Consult.Judge σ) {p : Interceptor}
    (harmed : p.isArmed = true) (hq : p.request.isBlocked = false) (frames : List Frame) (s : σ) :
    let m := onFrames c p frames
    ((∀ x ∈ m.exchanges judge s, x.2.refusal? c.failurePolicy = none) ∧
        (m.run judge s).1.isArmed = true ∧ (m.run judge s).1.request.isBlocked = false) ∨
      (∃ earlier x, m.exchanges judge s = earlier ++ [x] ∧
          ∀ y ∈ earlier, y.2.refusal? c.failurePolicy = none) ∧
        (m.run judge s).1.isDone = true := by
  intro m
  -- what the interceptor says afterwards, whatever became of the batcher
  have hbind := onFrames_bind (c := c) harmed hq frames
    (f := fun p' => .done (p'.isDone, p'.isArmed, p'.request.isBlocked))
    (g := fun x => .done (true, false, x.1.isBlocked)) fun _ _ _ => rfl
  have hrun := congrArg (fun m => (m.run judge s).1) hbind
  have hexchanges := congrArg (fun m => m.exchanges judge s) hbind
  simp only [Consult.run_bind, Consult.exchanges_bind, Consult.exchanges_done, Consult.run_done,
    List.append_nil] at hrun hexchanges
  rcases settleAll_isLetGo_or_isRefused c judge s
    (Request.isBlocked_eq_false_iff.1 hq) ((p.batcher.pushAll frames).2.map Round.full) with
    hgo | ⟨_, _, _, e, _, hno⟩
  · rw [Request.isBlocked_eq_false_iff.2 hgo.payload] at hrun hexchanges
    simp only [Bool.false_eq_true, if_false, Consult.run_done, Consult.exchanges_done,
      List.append_nil, Prod.mk.injEq] at hrun hexchanges
    exact .inl ⟨fun x hx => hgo.cleared x (hexchanges ▸ hx), hrun.2.1.trans harmed, hrun.2.2⟩
  · have hblocked : ((settleAll c p.request
        ((p.batcher.pushAll frames).2.map Round.full)).run judge s).1.1.isBlocked = true := by
      simp [Request.isBlocked, hno.payload]
    obtain ⟨earlier, x, hxs, hearlier, -⟩ := hno.refused
    rw [hblocked] at hrun hexchanges
    simp only [if_true, Consult.run_done, Consult.exchanges_done, List.append_nil,
      Prod.mk.injEq] at hrun hexchanges
    exact .inr ⟨⟨earlier, x, hexchanges.trans hxs, hearlier⟩, hrun.1⟩

theorem exchanges_onEnd {p : Interceptor} (harmed : p.isArmed = true)
    (hq : p.request.isBlocked = false) (s : σ) :
    (onEnd c p).exchanges judge s =
      (settleAll c p.request (Course.of p.assembler p.batcher []).rounds).exchanges judge s := by
  have h := congrArg (fun m => m.exchanges judge s) (onEnd_account (c := c) harmed hq)
  simpa [Consult.exchanges_bind] using h

/-- After a refusal nobody is asked, and nothing is pulled. -/
theorem silentAfterRefusal_log {p : Interceptor} (harmed : p.isArmed = true)
    (hq : p.request.isBlocked = false) (s : σ) (arrivals : List Arrival) :
    SilentAfterRefusal c.failurePolicy (log judge c p s arrivals) := by
  induction arrivals generalizing p s with
  | nil =>
    refine silentAfterRefusal_handedOut_append _ _ ?_
    split
    · exact List.Pairwise.nil
    · rw [List.cons_append]
      refine silentAfterRefusal_pulled none ?_
      refine silentAfterRefusal_asked_append ?_ (silentAfterRefusal_handedOut _)
      rw [exchanges_onEnd (p := { p with queue := [] }) harmed hq]
      rcases settleAll_isLetGo_or_isRefused c judge s
        (Request.isBlocked_eq_false_iff.1 hq) (Course.of p.assembler p.batcher []).rounds with
        hgo | ⟨_, _, _, e, _, hno⟩
      · exact .inl hgo.cleared
      · obtain ⟨earlier, x, hxs, hearlier, -⟩ := hno.refused
        exact .inr ⟨⟨earlier, x, hxs, hearlier⟩, fun _ => isPiece_of_mem_handedOut⟩
  | cons arrival rest ih =>
    refine silentAfterRefusal_handedOut_append _ _ ?_
    split
    · exact List.Pairwise.nil
    · refine silentAfterRefusal_pulled (some arrival) ?_
      cases arrival with
      | failed message => exact List.pairwise_singleton _ _
      | chunk bytes =>
        rcases onFrames_cleared_or_isDone judge
            (p := { p with queue := [], assembler := (p.assembler.feed bytes).1 }) harmed hq
            (p.assembler.feed bytes).2 s with ⟨hcleared, harmed', hq'⟩ | ⟨hlast, hdone⟩
        · exact silentAfterRefusal_asked_append (.inl hcleared) (ih harmed' hq' _)
        · -- the interceptor is done, so the rest of the log is what waits
          have hlog := log_of_isDone judge c hdone
          refine silentAfterRefusal_asked_append (.inr ⟨hlast, fun e he => ?_⟩) ?_
          · exact isPiece_of_mem_handedOut (hlog _ _ ▸ he)
          · exact (hlog _ _).symm ▸ silentAfterRefusal_handedOut _

end Refusal

end Interceptor

end ModerationGateway.Moderation
