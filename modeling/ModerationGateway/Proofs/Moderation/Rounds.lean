import ModerationGateway.Moderation.Interceptor
import ModerationGateway.Proofs.Moderation.Exchange
import ModerationGateway.Proofs.Stream.Conservation

/-!
# Streams as rounds

Where a stream is cut into chunks decides only when frames are there. What is done with them is a
sequence of rounds: one for every batch that fills, and one at the end for the frames that are
left. A round that is refused is the last one.

* `Round`, `Round.settle`: a batch, and the decision on it;
* `settleAll`: rounds in order, up to the first refusal;
* `Course`, `Course.of`: the rounds of a stream, the bytes behind them, and how the stream fails;
* `drain_eq_settleAll`: all that a client has from a stream is what its rounds release;
* `drain_eq_next`: the items of a stream, taken one at a time.
-/

namespace ModerationGateway.Moderation

open ModerationGateway.Stream

/-- A decision to be made: on a batch that is full, or on what is left at the end. -/
inductive Round where
  | full (batch : Batch)
  | last (batch : Option Batch)
  deriving DecidableEq, Repr

namespace Round

/-- The frames of a round. -/
def batch : Round → Batch
  | full batch => batch
  | last batch => batch.getD []

/-- The bytes of the frames of a round. -/
def raws (r : Round) : List Bytes := r.batch.raws

/-- Decide on a round. -/
def settle (c : ContentSecurity) (q : Request) : Round → Consult (Request × List Bytes)
  | full batch => submit c q batch
  | last batch => close c q batch

end Round

/-- Go on with what a stretch of a run made of a request, unless the stretch was refused. -/
def andThen (m : Consult (Request × List Bytes))
    (next : Request → Consult (Request × List Bytes)) : Consult (Request × List Bytes) := do
  let (q, out) ← m
  if q.isBlocked then .done (q, out)
  else
    let (q, more) ← next q
    .done (q, out ++ more)

theorem andThen_eq (m : Consult (Request × List Bytes))
    (next : Request → Consult (Request × List Bytes)) :
    andThen m next = m >>= fun x =>
      if x.1.isBlocked then .done x else next x.1 >>= fun y => .done (y.1, x.2 ++ y.2) := rfl

theorem andThen_done {q : Request} (hq : q.isBlocked = false)
    (next : Request → Consult (Request × List Bytes)) : andThen (.done (q, [])) next = next q := by
  simp only [andThen_eq, Consult.done_bind, hq, Bool.false_eq_true, if_false, List.nil_append]
  exact Consult.bind_done _

theorem andThen_assoc (m : Consult (Request × List Bytes))
    (f g : Request → Consult (Request × List Bytes)) :
    andThen (andThen m f) g = andThen m fun q => andThen (f q) g := by
  rw [andThen_eq, andThen_eq, andThen_eq, Consult.bind_assoc]
  refine Consult.bind_congr fun x => ?_
  by_cases hx : x.1.isBlocked = true
  · simp [hx]
  · rw [Bool.not_eq_true] at hx
    simp only [hx, Bool.false_eq_true, if_false, andThen_eq, Consult.bind_assoc]
    refine Consult.bind_congr fun y => ?_
    by_cases hy : y.1.isBlocked = true
    · simp [hy]
    · simp [hy, Consult.bind_assoc]

/-- Settle rounds in order, up to the first one that is refused. -/
def settleAll (c : ContentSecurity) (q : Request) : List Round → Consult (Request × List Bytes)
  | [] => .done (q, [])
  | r :: rounds => andThen (r.settle c q) fun q => settleAll c q rounds

@[simp] theorem settleAll_nil (c : ContentSecurity) (q : Request) :
    settleAll c q [] = .done (q, []) := rfl

theorem settleAll_cons (c : ContentSecurity) (q : Request) (r : Round) (rounds : List Round) :
    settleAll c q (r :: rounds) = andThen (r.settle c q) fun q => settleAll c q rounds := rfl

/-- A stretch of rounds is settled before the next one begins. -/
theorem settleAll_append (c : ContentSecurity) {q : Request} (hq : q.isBlocked = false)
    (rounds more : List Round) :
    settleAll c q (rounds ++ more) =
      andThen (settleAll c q rounds) fun q => settleAll c q more := by
  induction rounds generalizing q with
  | nil => exact (andThen_done hq fun q => settleAll c q more).symm
  | cons r rounds ih =>
    rw [List.cons_append, settleAll_cons, settleAll_cons, andThen_assoc, andThen_eq, andThen_eq]
    refine Consult.bind_congr fun x => ?_
    by_cases hx : x.1.isBlocked = true
    · simp [hx]
    · rw [Bool.not_eq_true] at hx
      rw [ih hx]

/-! ### The course of a stream -/

/-- What a stream comes to: its rounds, the bytes that belong to no frame, and its failure. -/
structure Course where
  rounds : List Round
  trailing : Bytes
  failure : Option String
  deriving DecidableEq, Repr

namespace Course

/-- The course of the rest of a stream. A failure takes the frames that wait with it. -/
def of (a : Assembler) (b : Batcher) : List Arrival → Course
  | [] =>
    let flush := a.finish.2
    let (b, batches) := b.pushAll flush.frame.toList
    ⟨batches.map .full ++ [.last b.finish.2], flush.trailing, none⟩
  | .failed message :: _ => ⟨[], [], some message⟩
  | .chunk bytes :: rest =>
    let (a, frames) := a.feed bytes
    let (b, batches) := b.pushAll frames
    let later := of a b rest
    { later with rounds := batches.map .full ++ later.rounds }

/-- The course of a stream from its start. -/
def ofArrivals (c : ContentSecurity) (arrivals : List Arrival) : Course :=
  of .empty (.ofSize c.batchSize.toNat) arrivals

/-- The trailing bytes as a piece of their own, if there are any. -/
def tail (course : Course) : List Bytes :=
  if course.trailing.isEmpty then [] else [course.trailing]

@[simp] theorem flatten_tail (course : Course) : course.tail.flatten = course.trailing := by
  unfold tail
  split
  next h => simpa using h.symm
  · simp

/-- What follows the rounds, unless one of them was refused. -/
def epilogue (course : Course) : List Interceptor.Item :=
  course.tail.map .ok ++ course.failure.toList.map fun message => .error (.backend message)

/-- All items, for what the rounds made of a request and released. -/
def items (course : Course) (x : Request × List Bytes) : List Interceptor.Item :=
  x.2.map .ok ++ if x.1.isBlocked then [] else course.epilogue

end Course

namespace Interceptor

variable {β : Type}

/-- Frames are decided on batch by batch. What is done after a refusal must not look at the frames
that are dropped with it. -/
theorem onFrames_bind {c : ContentSecurity} {p : Interceptor} (harmed : p.isArmed = true)
    (hq : p.request.isBlocked = false) (frames : List Frame) {f : Interceptor → Consult β}
    {g : Request × List Bytes → Consult β}
    (hfg : ∀ batcher x, x.1.isBlocked = true →
      f { p with
        batcher, request := x.1, queue := p.queue ++ x.2, isDone := true, isArmed := false
        reports := p.reports + 1 } = g x) :
    (onFrames c p frames >>= f) =
      settleAll c p.request ((p.batcher.pushAll frames).2.map .full) >>= fun x =>
        if x.1.isBlocked then g x
        else f { p with
          batcher := (p.batcher.pushAll frames).1, request := x.1, queue := p.queue ++ x.2 } := by
  -- `g` varies, because it has to know what the batches before released
  induction frames generalizing p g with
  | nil => simp [onFrames, hq]
  | cons frame frames ih =>
    rw [Batcher.pushAll_cons]
    cases hpush : p.batcher.push frame with
    | mk batcher filled =>
      cases filled with
      | none =>
        simp only [onFrames, hpush, Option.toList_none, List.nil_append]
        exact ih (p := { p with batcher }) harmed hq hfg
      | some batch =>
        simp only [onFrames, hpush, Option.toList_some, List.singleton_append, List.map_cons,
          settleAll_cons, andThen_eq, Consult.bind_assoc]
        refine Consult.bind_congr fun x => ?_
        by_cases hx : x.1.isBlocked = true
        · simp [takeOver, report, hx, harmed, hfg]
        · rw [Bool.not_eq_true] at hx
          have hlater := ih (p := { p with batcher, request := x.1, queue := p.queue ++ x.2 })
            (g := fun y => g (y.1, x.2 ++ y.2)) harmed hx
            fun b y hy => by simpa using hfg b (y.1, x.2 ++ y.2) hy
          simp only [takeOver, report, hx, Bool.false_and, Bool.false_eq_true, if_false,
            Consult.bind_assoc, Consult.done_bind]
          simpa using hlater

/-- A stream that is over has only what waits. -/
theorem drain_of_isDone {p : Interceptor} (h : p.isDone = true) (c : ContentSecurity)
    (arrivals : List Arrival) :
    drain c p arrivals = .done (p.queue.map .ok, { p with queue := [] }) := by
  cases arrivals <;> simp [drain, popAll, h]

/-- The last rounds of a stream, and the trailing bytes unless one of them was refused. -/
theorem onEnd_account {c : ContentSecurity} {p : Interceptor} (harmed : p.isArmed = true)
    (hq : p.request.isBlocked = false) :
    (onEnd c p >>= fun p' => .done (p'.queue, p'.request, p'.reports)) =
      settleAll c p.request (Course.of p.assembler p.batcher []).rounds >>= fun x =>
        .done (p.queue ++ x.2 ++
            (if x.1.isBlocked || p.assembler.finish.2.trailing.isEmpty then []
              else [p.assembler.finish.2.trailing]),
          x.1, p.reports + if x.1.isBlocked then 1 else 0) := by
  simp only [onEnd, Course.of]
  rw [Consult.bind_assoc,
    onFrames_bind (p := { p with assembler := p.assembler.finish.1, isDone := true })
      (g := fun x => .done (p.queue ++ x.2, x.1, p.reports + 1)) harmed hq]
  · rw [settleAll_append c hq, andThen_eq, Consult.bind_assoc]
    refine Consult.bind_congr fun x => ?_
    by_cases hx : x.1.isBlocked = true
    · simp [hx]
    · rw [Bool.not_eq_true] at hx
      simp only [hx, Bool.false_eq_true, if_false, onLast, settleAll_cons, andThen_eq,
        Round.settle, Consult.bind_assoc]
      refine Consult.bind_congr fun y => ?_
      by_cases hy : y.1.isBlocked = true
      · simp [takeOver, report, hy, harmed]
      · by_cases ht : p.assembler.finish.2.trailing = []
        · simp [takeOver, report, hy, ht]
        · simp [takeOver, report, hy, ht]
  · intro batcher x hx
    simp [hx]

/-- What a client has from a stream is what its rounds release and the epilogue. -/
theorem drain_eq_settleAll {c : ContentSecurity} {p : Interceptor} (hdone : p.isDone = false)
    (harmed : p.isArmed = true) (hq : p.request.isBlocked = false) (arrivals : List Arrival) :
    (drain c p arrivals >>= fun r => .done (r.1, r.2.request, r.2.reports)) =
      settleAll c p.request (Course.of p.assembler p.batcher arrivals).rounds >>= fun x =>
        .done (p.queue.map .ok ++ (Course.of p.assembler p.batcher arrivals).items x, x.1,
          p.reports + if x.1.isBlocked then 1 else 0) := by
  induction arrivals generalizing p with
  | nil =>
    have hend := congrArg (· >>= fun y =>
      .done (p.queue.map Except.ok ++ y.1.map (Except.ok (ε := Fault)), y.2.1, y.2.2))
      (onEnd_account (c := c) (p := { p with queue := [], isDone := false }) harmed hq)
    simp only [Consult.bind_assoc, Consult.done_bind, List.nil_append] at hend
    simp only [drain, popAll, hdone, Bool.false_eq_true, if_false, Consult.bind_assoc,
      Consult.done_bind, hend]
    refine Consult.bind_congr fun x => ?_
    by_cases hx : x.1.isBlocked = true
    · simp [Course.items, hx]
    · by_cases ht : p.assembler.finish.2.trailing = []
      · simp [Course.items, Course.epilogue, Course.tail, Course.of, hx, ht]
      · simp [Course.items, Course.epilogue, Course.tail, Course.of, hx, ht]
  | cons arrival rest ih =>
    cases arrival with
    | failed message =>
      simp [drain, popAll, hdone, Course.of, Course.items, Course.epilogue, Course.tail, hq]
    | chunk bytes =>
      simp only [drain, popAll, hdone, Bool.false_eq_true, if_false, onChunk, Course.of,
        Consult.bind_assoc]
      rw [onFrames_bind
        (p := { p with queue := [], isDone := false, assembler := (p.assembler.feed bytes).1 })
        (g := fun x => .done (p.queue.map Except.ok ++ x.2.map Except.ok, x.1, p.reports + 1))
        harmed hq]
      · rw [settleAll_append c hq, andThen_eq, Consult.bind_assoc]
        refine Consult.bind_congr fun x => ?_
        by_cases hx : x.1.isBlocked = true
        · simp [hx, Course.items]
        · rw [Bool.not_eq_true] at hx
          have hlater := congrArg (· >>= fun y =>
            .done (p.queue.map Except.ok ++ y.1, y.2.1, y.2.2))
            (@ih { p with
              queue := x.2, isDone := false, assembler := (p.assembler.feed bytes).1, request := x.1
              batcher := (p.batcher.pushAll (p.assembler.feed bytes).2).1 } rfl harmed hx)
          simp only [Consult.bind_assoc, Consult.done_bind] at hlater
          simp only [hx, Bool.false_eq_true, if_false, List.nil_append, Consult.bind_assoc,
            Consult.done_bind]
          rw [hlater]
          refine Consult.bind_congr fun y => ?_
          simp [Course.items, Course.epilogue, Course.tail]
      · intro batcher x hx
        simp [drain_of_isDone]

/-! ### One item at a time -/

/-- What waits is handed out before anything else. -/
theorem drain_queue (c : ContentSecurity) (p : Interceptor) (arrivals : List Arrival) :
    drain c p arrivals = drain c { p with queue := [] } arrivals >>= fun y =>
      .done (p.queue.map .ok ++ y.1, y.2) := by
  cases arrivals with
  | nil =>
    by_cases h : p.isDone = true
    · simp [drain, popAll, h]
    · simp [drain, popAll, h, Consult.bind_assoc]
  | cons arrival rest =>
    by_cases h : p.isDone = true
    · simp [drain, popAll, h]
    · cases arrival with
      | chunk bytes => simp [drain, popAll, h, Consult.bind_assoc]
      | failed message => simp [drain, popAll, h]

@[simp] theorem isDone_takeOver (p : Interceptor) (x : Request × List Bytes) :
    (takeOver p x).isDone = p.isDone := by
  unfold takeOver report
  split <;> rfl

/-- Frames do not reopen a stream that is over. -/
theorem onFrames_yields_isDone {c : ContentSecurity} {p : Interceptor} (h : p.isDone = true)
    (frames : List Frame) : (onFrames c p frames).Yields (·.isDone = true) := by
  induction frames generalizing p with
  | nil => exact h
  | cons frame frames ih =>
    rw [onFrames]
    split
    · exact ih h
    · refine Consult.Yields.bind_right _ fun x => ?_
      dsimp only
      split
      · rfl
      · exact ih (by simpa using h)

/-- After the end of the stream nothing more is pulled. -/
theorem onEnd_yields_isDone (c : ContentSecurity) (p : Interceptor) :
    (onEnd c p).Yields (·.isDone = true) := by
  refine Consult.Yields.bind (onFrames_yields_isDone rfl _) fun p' h => ?_
  split
  · exact h
  · refine Consult.Yields.bind_right _ fun x => ?_
    dsimp only
    split <;> simpa using h

/-- The items of a stream, given its next item and what is left. -/
def withRest (c : ContentSecurity) :
    Option Item × Interceptor × List Arrival → Consult (List Item × Interceptor)
  | (none, p, _) => .done ([], p)
  | (some item, p, rest) => drain c p rest >>= fun y => .done (item :: y.1, y.2)

theorem next_of_ready {p : Interceptor} (h : (p.queue.isEmpty && !p.isDone) = false)
    (c : ContentSecurity) (arrivals : List Arrival) :
    next c p arrivals = .done (p.pop.1, p.pop.2, arrivals) := by
  cases arrivals <;> simp [next, h]

/-- Where the next item is there without a pull, or there is none, the arrivals do not matter. -/
theorem drain_eq_withRest_pop {p : Interceptor} (h : (p.queue.isEmpty && !p.isDone) = false)
    (c : ContentSecurity) (arrivals : List Arrival) :
    drain c p arrivals = withRest c (p.pop.1, p.pop.2, arrivals) := by
  cases hqueue : p.queue with
  | nil =>
    have hdone : p.isDone = true := by simpa [hqueue] using h
    have hp : { p with queue := [] } = p := by rw [← hqueue]
    simp [drain_of_isDone hdone, pop, hqueue, withRest, hp]
  | cons bytes queue =>
    rw [drain_queue]
    simp only [pop, hqueue, withRest]
    rw [drain_queue c { p with queue }, Consult.bind_assoc]
    rfl

/-- A stream that is not over and has nothing to hand out takes the next arrival. -/
theorem drain_of_waiting {p : Interceptor} (hqueue : p.queue = []) (hdone : p.isDone = false)
    (c : ContentSecurity) :
    drain c p [] = onEnd c p >>= (fun p' => .done (p'.queue.map .ok, { p' with queue := [] })) ∧
      ∀ bytes rest, drain c p (.chunk bytes :: rest) =
        onChunk c p bytes >>= fun p' => drain c p' rest := by
  obtain ⟨assembler, batcher, request, queue, isDone, isArmed, reports⟩ := p
  dsimp only at hqueue hdone
  subst hqueue hdone
  refine ⟨by simp [drain, popAll], fun bytes rest => ?_⟩
  simp only [drain, popAll, Bool.false_eq_true, if_false, List.map_nil, List.nil_append]
  exact Consult.bind_congr fun p' => Consult.bind_done _

/-- All items of a stream are the next one and all items of what is left. -/
theorem drain_eq_next (c : ContentSecurity) (p : Interceptor) (arrivals : List Arrival) :
    drain c p arrivals = next c p arrivals >>= withRest c := by
  induction arrivals generalizing p with
  | nil =>
    cases h : p.queue.isEmpty && !p.isDone with
    | false => rw [next_of_ready h, Consult.done_bind, drain_eq_withRest_pop h]
    | true =>
      obtain ⟨hqueue, hdone⟩ : p.queue = [] ∧ p.isDone = false := by simpa using h
      have hnext : next c p [] = onEnd c p >>= fun p' => .done (p'.pop.1, p'.pop.2, []) := by
        simp [next, h]
      rw [(drain_of_waiting hqueue hdone c).1, hnext, Consult.bind_assoc]
      refine Consult.bind_congr_of_yields (onEnd_yields_isDone c p) fun p' hp' => ?_
      rw [← drain_of_isDone hp' c []]
      exact drain_eq_withRest_pop (by simp [hp']) c []
  | cons arrival rest ih =>
    cases h : p.queue.isEmpty && !p.isDone with
    | false => rw [next_of_ready h, Consult.done_bind, drain_eq_withRest_pop h]
    | true =>
      obtain ⟨hqueue, hdone⟩ : p.queue = [] ∧ p.isDone = false := by simpa using h
      cases arrival with
      | chunk bytes =>
        have hnext : next c p (.chunk bytes :: rest) = onChunk c p bytes >>= fun p' =>
            next c p' rest := by
          simp [next, h]
        rw [(drain_of_waiting hqueue hdone c).2, hnext, Consult.bind_assoc]
        exact Consult.bind_congr fun p' => ih p'
      | failed message =>
        simp [drain, popAll, next, hdone, hqueue, withRest, drain_of_isDone]

end Interceptor

end ModerationGateway.Moderation
