import ModerationGateway.Proofs.Moderation.Session

/-!
# Reading a stream step by step

Whoever reads a stream can stop at any moment, also while a question waits for its verdict. A
reading is a stream on its way: what is left to come, what the reader has got, and the question
that waits, if there is one.

* `Reading`, `Reading.advance`, `Reading.answer`: the reader goes on, a verdict comes;
* `Reading.whole`: what a reader gets who reads to the end;
* `Reading.whole_advance`, `Reading.whole_of_asking`: it does not change on the way;
* `Consult.Heeds`: nobody is asked after a refusal, whatever the verdicts;
* `IsMarked`: a request knows the first verdict that refused it, and so does its guard;
* `Reading.Heeds`, `Reading.Heeds.advance`, `Reading.Heeds.answer`: this is so at every moment.
-/

namespace ModerationGateway.Moderation

open ModerationGateway.Stream

variable {c : ContentSecurity} {policy : FailurePolicy} {id : RequestId} {xs : List Exchange}
  {q : Request}

/-- Where a reader stands. -/
inductive Stage where
  /-- Nothing keeps the reader from going on. -/
  | ready
  /-- A question waits for its verdict, and this is how it goes on. -/
  | asking (q : Question) (next : Verdict → Consult Interceptor)
  /-- The reader knows that there is nothing more. -/
  | ended

/-- A stream that is being read. -/
structure Reading where
  /-- The interceptor, as it was before the question that waits. -/
  interceptor : Interceptor
  rest : List Arrival
  stage : Stage
  items : List Interceptor.Item
  exchanges : List Exchange

namespace Reading

/-- Nothing has been read. -/
def ofInterceptor (p : Interceptor) (arrivals : List Arrival) : Reading :=
  ⟨p, arrivals, .ready, [], []⟩

/-- A reader who goes on comes to a result or to a question. -/
def resume (r : Reading) : Consult Interceptor → Reading
  | .done p => { r with interceptor := p, stage := .ready }
  | .ask q next => { r with stage := .asking q next }

/-- The reader takes what waits to be handed out. If nothing does, the stream is over, or the
reader pulls. -/
def proceed (c : ContentSecurity) (r : Reading) : Reading :=
  match r.interceptor.queue with
  | bytes :: queue =>
    { r with interceptor := { r.interceptor with queue }, items := r.items ++ [.ok bytes] }
  | [] =>
    if r.interceptor.isDone then { r with stage := .ended }
    else
      match r.rest with
      | [] => r.resume (Interceptor.onEnd c r.interceptor)
      | .chunk bytes :: rest => { r with rest }.resume (Interceptor.onChunk c r.interceptor bytes)
      | .failed message :: rest =>
        { r with
          interceptor := { r.interceptor with isDone := true }
          rest
          items := r.items ++ [.error (.backend message)] }

/-- The reader goes on, unless a question waits or the stream is over. -/
def advance (c : ContentSecurity) (r : Reading) : Reading :=
  match r.stage with
  | .ready => r.proceed c
  | _ => r

/-- A verdict comes, if a question waits for it. -/
def answer (r : Reading) (v : Verdict) : Reading :=
  match r.stage with
  | .asking q next => { r with exchanges := r.exchanges ++ [(q, v)] }.resume (next v)
  | _ => r

variable {r : Reading}

theorem advance_of_ready (h : r.stage = .ready) : r.advance c = r.proceed c := by
  rw [advance, h]

theorem advance_of_ne_ready (h : r.stage ≠ .ready) : r.advance c = r := by
  unfold advance
  split
  · contradiction
  · rfl

theorem answer_of_asking {question : Question} {next : Verdict → Consult Interceptor}
    (h : r.stage = .asking question next) (v : Verdict) :
    r.answer v = { r with exchanges := r.exchanges ++ [(question, v)] }.resume (next v) := by
  rw [answer, h]

/-! ### What is read in the end -/

/-- All that is still to be read. -/
def ahead (c : ContentSecurity) (r : Reading) : Consult (List Interceptor.Item × Interceptor) :=
  match r.stage with
  | .ready => Interceptor.drain c r.interceptor r.rest
  | .asking q next => .ask q fun v => next v >>= fun p => Interceptor.drain c p r.rest
  | .ended => .done ([], r.interceptor)

/-- All that has been read and will be. -/
def whole (c : ContentSecurity) (r : Reading) : Consult (List Interceptor.Item × Interceptor) :=
  r.ahead c >>= fun y => .done (r.items ++ y.1, y.2)

/-- Who reads from the start reads the stream. -/
theorem whole_ofInterceptor (c : ContentSecurity) (p : Interceptor) (arrivals : List Arrival) :
    (ofInterceptor p arrivals).whole c = Interceptor.drain c p arrivals :=
  Consult.bind_done _

theorem whole_of_ended (h : r.stage = .ended) : r.whole c = .done (r.items, r.interceptor) := by
  simp [whole, ahead, h]

theorem ahead_resume (c : ContentSecurity) (r : Reading) (m : Consult Interceptor) :
    (r.resume m).ahead c = m >>= fun p => Interceptor.drain c p r.rest := by
  cases m <;> rfl

@[simp] theorem items_resume (r : Reading) (m : Consult Interceptor) :
    (r.resume m).items = r.items := by
  cases m <;> rfl

@[simp] theorem exchanges_resume (r : Reading) (m : Consult Interceptor) :
    (r.resume m).exchanges = r.exchanges := by
  cases m <;> rfl

theorem whole_resume (c : ContentSecurity) (r : Reading) (m : Consult Interceptor) :
    (r.resume m).whole c =
      (m >>= fun p => Interceptor.drain c p r.rest) >>= fun y => .done (r.items ++ y.1, y.2) := by
  rw [whole, ahead_resume, items_resume]

/-- To go on does not change what is read in the end. -/
theorem whole_proceed (h : r.stage = .ready) : (r.proceed c).whole c = r.whole c := by
  obtain ⟨p, rest, stage, items, exchanges⟩ := r
  cases h
  show _ = Interceptor.drain c p rest >>= fun y => .done (items ++ y.1, y.2)
  cases hqueue : p.queue with
  | cons bytes queue =>
    -- the piece is handed out, and the rest of the queue is
    rw [Interceptor.drain_queue]
    simp only [proceed, hqueue, whole, ahead]
    rw [Interceptor.drain_queue c { p with queue }]
    simp [Consult.bind_assoc]
  | nil =>
    cases hdone : p.isDone with
    | true =>
      have hover : (Reading.mk p rest .ready items exchanges).proceed c =
          ⟨p, rest, .ended, items, exchanges⟩ := by
        simp [proceed, hqueue, hdone]
      have hp : { p with queue := [] } = p := by rw [← hqueue]
      rw [hover, whole_of_ended rfl, Interceptor.drain_of_isDone hdone, hqueue, hp]
      simp
    | false =>
      obtain ⟨hend, hchunk⟩ := Interceptor.drain_of_waiting hqueue hdone c
      cases rest with
      | nil =>
        simp only [proceed, hqueue, hdone, Bool.false_eq_true, if_false, whole_resume, hend]
        -- the interceptor that sees the end of the stream is done
        rw [Consult.bind_congr_of_yields (Interceptor.onEnd_yields_isDone c p)
          fun p' hp' => Interceptor.drain_of_isDone hp' c []]
      | cons arrival rest =>
        cases arrival with
        | chunk bytes =>
          simp only [proceed, hqueue, hdone, Bool.false_eq_true, if_false, whole_resume, hchunk]
        | failed message =>
          have hfailed : (Reading.mk p (.failed message :: rest) .ready items exchanges).proceed c =
              ⟨{ p with isDone := true }, rest, .ready, items ++ [.error (.backend message)],
                exchanges⟩ := by
            simp [proceed, hqueue, hdone]
          rw [hfailed, whole, ahead]
          simp [Interceptor.drain_of_isDone, Interceptor.drain, Interceptor.popAll, hqueue, hdone]

theorem whole_advance (c : ContentSecurity) (r : Reading) :
    (r.advance c).whole c = r.whole c := by
  by_cases h : r.stage = .ready
  · rw [advance_of_ready h, whole_proceed h]
  · rw [advance_of_ne_ready h]

/-- What is read in the end depends on the verdict on the question that waits. -/
theorem whole_of_asking {question : Question} {next : Verdict → Consult Interceptor}
    (h : r.stage = .asking question next) :
    r.whole c = .ask question fun v => (r.answer v).whole c := by
  simp only [answer_of_asking h, whole_resume]
  simp [whole, ahead, h]

@[simp] theorem exchanges_advance (c : ContentSecurity) (r : Reading) :
    (r.advance c).exchanges = r.exchanges := by
  unfold advance
  split
  · unfold proceed
    split
    · rfl
    · split
      · rfl
      · split <;> simp
  · rfl

end Reading

/-! ### Refusals -/

@[simp] theorem Round.guard_intake (q : Request) (r : Round) : (r.intake q).1.guard = q.guard := by
  cases r with
  | full batch => rfl
  | last batch => cases batch <;> rfl

namespace Consult

variable {α β : Type}

/-- Nobody is asked after a refusal, and every result satisfies a predicate together with the
exchanges that have led to it, whatever the verdicts. -/
def Heeds (policy : FailurePolicy) (P : List Exchange → α → Prop) :
    Consult α → List Exchange → Prop
  | done a, xs => P xs a
  | ask q next, xs =>
    firstRefusal? policy xs = none ∧ ∀ v, (next v).Heeds policy P (xs ++ [(q, v)])

theorem Heeds.bind {P : List Exchange → α → Prop} {Q : List Exchange → β → Prop} {m : Consult α}
    {f : α → Consult β} (hm : m.Heeds policy P xs)
    (hf : ∀ ys a, P ys a → (f a).Heeds policy Q ys) : (m >>= f).Heeds policy Q xs := by
  induction m generalizing xs with
  | done a => exact hf xs a hm
  | ask q next ih => exact ⟨hm.1, fun v => ih v (hm.2 v)⟩

/-- The result of a run satisfies the predicate together with the exchanges of this run. -/
theorem Heeds.run {σ : Type} {P : List Exchange → α → Prop} {m : Consult α}
    (hm : m.Heeds policy P xs) (judge : Judge σ) (s : σ) :
    P (xs ++ m.exchanges judge s) (m.run judge s).1 := by
  induction m generalizing xs s with
  | done a =>
    rw [exchanges_done, List.append_nil]
    exact hm
  | ask q next ih =>
    have hnext := ih _ (hm.2 (judge s q).1) (judge s q).2
    rw [List.append_assoc] at hnext
    rw [exchanges_ask]
    exact hnext

end Consult

/-- The first verdict that refuses is what the request is blocked with, and its guard knows that
it is blocked. -/
structure IsMarked (policy : FailurePolicy) (id : RequestId) (xs : List Exchange) (q : Request) :
    Prop where
  payload : q.payload = (firstRefusal? policy xs).map Envelope.bytes
  guard : q.guard = ⟨id, q.isBlocked⟩

namespace IsMarked

/-- A request that has not been asked about is not blocked. -/
theorem ofGuard (policy : FailurePolicy) (windowSize : Nat) (id : RequestId) :
    IsMarked policy id [] (.ofGuard windowSize ⟨id, false⟩) := ⟨rfl, rfl⟩

/-- Only the payload and the guard count. -/
theorem congr (h : IsMarked policy id xs q) {q' : Request} (hpayload : q'.payload = q.payload)
    (hguard : q'.guard = q.guard) : IsMarked policy id xs q' := by
  refine ⟨hpayload.trans h.payload, hguard.trans (h.guard.trans ?_)⟩
  rw [Request.isBlocked, Request.isBlocked, hpayload]

theorem payload_eq_none_iff (h : IsMarked policy id xs q) :
    q.payload = none ↔ firstRefusal? policy xs = none := by
  rw [h.payload, Option.map_eq_none_iff]

/-- A verdict marks the request if it refuses, and not otherwise. -/
theorem resolve (h : IsMarked policy id xs q) (hq : q.payload = none) (batch : Batch)
    (question : Question) (v : Verdict) :
    IsMarked policy id (xs ++ [(question, v)]) (resolve policy q batch v).1 := by
  have hnone := h.payload_eq_none_iff.1 hq
  cases hv : v.refusal? policy with
  | none =>
    have hcleared : firstRefusal? policy (xs ++ [(question, v)]) = none := by
      rw [firstRefusal?_append, hnone]
      simp [firstRefusal?, hv]
    rw [resolve_of_cleared hv]
    exact ⟨by rw [hcleared]; exact hq, h.guard⟩
  | some e =>
    have hrefused : firstRefusal? policy (xs ++ [(question, v)]) = some e := by
      rw [firstRefusal?_append, hnone]
      simp [firstRefusal?, hv]
    have hid : q.guard.id = id := congrArg Guard.id h.guard
    rw [resolve_of_refused hv]
    constructor
    · rw [hrefused]
      simp [refuse, Request.block, hq]
    · simp [refuse, Request.block, Request.isBlocked, hq, hid]

/-- A round marks the request as the verdict on it says, if it is asked about. -/
theorem settle (h : IsMarked c.failurePolicy id xs q) (r : Round) :
    (r.settle c q).Heeds c.failurePolicy (fun ys x => IsMarked c.failurePolicy id ys x.1) xs := by
  cases hq : q.payload with
  | some payload =>
    obtain ⟨batches, hsettle⟩ := r.settle_of_payload (c := c) hq
    rw [hsettle]
    exact h.congr rfl rfl
  | none =>
    have hintake : IsMarked c.failurePolicy id xs (r.intake q).1 :=
      h.congr (r.payload_intake q) (r.guard_intake q)
    have hnone : (r.intake q).1.payload = none := (r.payload_intake q).trans hq
    rw [Round.settle_eq hq]
    split
    · exact ⟨h.payload_eq_none_iff.1 hq, fun v =>
        IsMarked.resolve (q := { (r.intake q).1 with checks := (r.intake q).1.checks + 1 })
          (hintake.congr rfl rfl) hnone r.batch _ v⟩
    · exact hintake

/-- So do rounds, up to the first one that is refused. -/
theorem settleAll (h : IsMarked c.failurePolicy id xs q) (rounds : List Round) :
    (settleAll c q rounds).Heeds c.failurePolicy
      (fun ys x => IsMarked c.failurePolicy id ys x.1) xs := by
  induction rounds generalizing q xs with
  | nil => exact h
  | cons r rounds ih =>
    rw [settleAll_cons, andThen_eq]
    refine (h.settle r).bind fun ys x hx => ?_
    split
    · exact hx
    · exact (ih hx).bind fun zs y hy => hy

end IsMarked

namespace Interceptor

variable {p : Interceptor}

@[simp] theorem request_takeOver (p : Interceptor) (x : Request × List Bytes) :
    (takeOver p x).request = x.1 := by
  unfold takeOver report
  split <;> rfl

theorem heeds_onFrames (h : IsMarked c.failurePolicy id xs p.request) (frames : List Frame) :
    (onFrames c p frames).Heeds c.failurePolicy
      (fun ys p => IsMarked c.failurePolicy id ys p.request) xs := by
  induction frames generalizing p xs with
  | nil => exact h
  | cons frame frames ih =>
    rw [onFrames]
    split
    · exact ih h
    · refine (h.settle (.full _)).bind fun ys x hx => ?_
      dsimp only
      split
      · simpa [Consult.Heeds] using hx
      · exact ih (by simpa using hx)

theorem heeds_onChunk (h : IsMarked c.failurePolicy id xs p.request) (chunk : Bytes) :
    (onChunk c p chunk).Heeds c.failurePolicy
      (fun ys p => IsMarked c.failurePolicy id ys p.request) xs :=
  heeds_onFrames (p := { p with assembler := (p.assembler.feed chunk).1 }) h _

theorem heeds_onEnd (h : IsMarked c.failurePolicy id xs p.request) :
    (onEnd c p).Heeds c.failurePolicy
      (fun ys p => IsMarked c.failurePolicy id ys p.request) xs := by
  refine (heeds_onFrames (p := { p with assembler := _, isDone := true }) h _).bind
    fun ys p' hp' => ?_
  split
  · exact hp'
  · refine (hp'.settle (.last _)).bind fun zs x hx => ?_
    dsimp only
    split <;> simpa [Consult.Heeds] using hx

end Interceptor

namespace Reading

variable {r : Reading}

/-- At every moment the request of a stream is marked as the verdicts say, and a question waits
only if nothing has been refused. -/
structure Heeds (policy : FailurePolicy) (id : RequestId) (r : Reading) : Prop where
  marked : IsMarked policy id r.exchanges r.interceptor.request
  asking : ∀ question next, r.stage = .asking question next →
    firstRefusal? policy r.exchanges = none ∧
      ∀ v, (next v).Heeds policy (fun ys p => IsMarked policy id ys p.request)
        (r.exchanges ++ [(question, v)])

namespace Heeds

theorem ofInterceptor {p : Interceptor} (h : IsMarked policy id [] p.request)
    (arrivals : List Arrival) : (ofInterceptor p arrivals).Heeds policy id :=
  ⟨h, fun _ _ hstage => by contradiction⟩

theorem resume {m : Consult Interceptor}
    (hm : m.Heeds policy (fun ys p => IsMarked policy id ys p.request) r.exchanges)
    (hr : firstRefusal? policy r.exchanges = none →
      IsMarked policy id r.exchanges r.interceptor.request) : (r.resume m).Heeds policy id := by
  cases m with
  | done p => exact ⟨hm, fun _ _ hstage => by contradiction⟩
  | ask question next =>
    obtain ⟨hnone, hnext⟩ := hm
    refine ⟨hr hnone, fun question' next' hstage => ?_⟩
    cases hstage
    exact ⟨hnone, hnext⟩

theorem proceed (h : r.Heeds c.failurePolicy id) (hready : r.stage = .ready) :
    (r.proceed c).Heeds c.failurePolicy id := by
  have hstill : ∀ r' : Reading, r'.stage = .ready ∨ r'.stage = .ended →
      r'.exchanges = r.exchanges → r'.interceptor.request = r.interceptor.request →
        r'.Heeds c.failurePolicy id := by
    intro r' hstage hexchanges hrequest
    refine ⟨by rw [hexchanges, hrequest]; exact h.marked, fun question next hasking => ?_⟩
    rw [hasking] at hstage
    rcases hstage with hstage | hstage <;> contradiction
  unfold Reading.proceed
  split
  · exact hstill _ (.inl hready) rfl rfl
  · split
    · exact hstill _ (.inr rfl) rfl rfl
    · split
      · exact resume (Interceptor.heeds_onEnd h.marked) fun _ => h.marked
      · exact resume (Interceptor.heeds_onChunk h.marked _) fun _ => h.marked
      · exact hstill _ (.inl hready) rfl rfl

theorem advance (h : r.Heeds c.failurePolicy id) : (r.advance c).Heeds c.failurePolicy id := by
  by_cases hready : r.stage = .ready
  · rw [advance_of_ready hready]
    exact h.proceed hready
  · rw [advance_of_ne_ready hready]
    exact h

theorem answer (h : r.Heeds policy id) (v : Verdict) : (r.answer v).Heeds policy id := by
  cases hstage : r.stage with
  | ready => rw [Reading.answer, hstage]; exact h
  | ended => rw [Reading.answer, hstage]; exact h
  | asking question next =>
    obtain ⟨hbefore, hnext⟩ := h.asking question next hstage
    rw [answer_of_asking hstage]
    refine resume (hnext v) fun hnone => ⟨?_, h.marked.guard⟩
    -- nothing was refused before and nothing is refused now, so the request stays as it is
    rw [hnone, ← hbefore]
    exact h.marked.payload

end Heeds

end Reading

end ModerationGateway.Moderation
