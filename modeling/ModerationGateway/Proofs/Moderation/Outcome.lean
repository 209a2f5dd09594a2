import ModerationGateway.Proofs.Moderation.Log

/-!
# The shape of a moderated stream

A client receives pieces of the answer, and after them one thing at most: the envelope of a refusal
or the failure of the upstream. Which pieces these are is decided by the round that is refused.

* `arrivalsOf`, `stream`: chunks and perhaps a failure, as a client has them;
* `ending`: what follows the pieces;
* `IsShaped`, `exists_isShaped`: the shape of a run, which every run has;
* `IsLogged`, `stream_isShaped`: and what happens in it, in order, for a client that takes one item
  after the other.
-/

namespace ModerationGateway.Moderation

open ModerationGateway.Stream

/-- What the upstream sends: chunks, and perhaps a failure after them. -/
def arrivalsOf (chunks : List Bytes) (failure : Option String) : List Arrival :=
  chunks.map .chunk ++ failure.toList.map .failed

namespace Course

variable (c : ContentSecurity) (chunks : List Bytes) (failure : Option String)

@[simp] theorem failure_arrivalsOf :
    (ofArrivals c (arrivalsOf chunks failure)).failure = failure := by
  rw [ofArrivals, arrivalsOf, of_chunks]
  cases failure <;> rfl

/-- The pieces that a stream may release are bytes from its start. -/
theorem flatten_prefix :
    ((ofArrivals c (arrivalsOf chunks failure)).rounds.flatMap Round.raws ++
      (ofArrivals c (arrivalsOf chunks failure)).tail).flatten <+: chunks.flatten := by
  rw [List.flatten_append, flatten_tail]
  cases failure with
  | none =>
    simp only [arrivalsOf, Option.toList_none, List.map_nil, List.append_nil]
    exact (flatten_raws c chunks).symm ▸ List.prefix_rfl
  | some message =>
    have htrailing : (ofArrivals c (arrivalsOf chunks (some message))).trailing = [] := by
      rw [ofArrivals, arrivalsOf, of_chunks]
      rfl
    rw [htrailing, List.append_nil]
    exact raws_prefix c chunks message []

end Course

namespace Interceptor

variable {σ : Type}

/-- What follows the pieces of the answer. -/
def ending (failure : Option String) : Option Bytes → List Item
  | some payload => [.ok payload]
  | none => failure.toList.map fun message => .error (.backend message)

/-- The stream of a request, for a client that takes every item. -/
def stream (c : ContentSecurity) (guard : Guard) (chunks : List Bytes) (failure : Option String) :
    Consult (List Item × Interceptor) :=
  drain c (attach c guard) (arrivalsOf chunks failure)

/-- The log of a stream. -/
def streamLog (c : ContentSecurity) (guard : Guard) (chunks : List Bytes)
    (failure : Option String) (judge : Consult.Judge σ) (s : σ) : List Event :=
  log judge c (attach c guard) s (arrivalsOf chunks failure)

/-- The check of a round of a stream refuses, after rounds that were all let go. -/
def RefusedAt (c : ContentSecurity) (guard : Guard) (judge : Consult.Judge σ) (s : σ)
    (before : List Round) (r : Round) : Prop :=
  RefusedAfter c judge (.ofGuard c.windowSize.toNat guard) s before r

/-- The shape of a run, for the pieces of the answer that it releases. -/
structure IsShaped (c : ContentSecurity) (guard : Guard) (chunks : List Bytes)
    (failure : Option String) (judge : Consult.Judge σ) (s : σ) (released : List Bytes) :
    Prop where
  items : ((stream c guard chunks failure).run judge s).1.1 = released.map .ok ++
    ending failure ((stream c guard chunks failure).run judge s).1.2.request.payload
  released_prefix : released.flatten <+: chunks.flatten
  released_all : ((stream c guard chunks failure).run judge s).1.2.request.payload = none →
    failure = none → released.flatten = chunks.flatten
  reports : ((stream c guard chunks failure).run judge s).1.2.reports =
    if ((stream c guard chunks failure).run judge s).1.2.request.isBlocked then 1 else 0
  /-- The payload is the envelope of the last verdict, the only one that refuses. -/
  payload : ∀ payload, ((stream c guard chunks failure).run judge s).1.2.request.payload =
    some payload → ∃ e earlier x, payload = e.bytes ∧
      (stream c guard chunks failure).exchanges judge s = earlier ++ [x] ∧
      (∀ y ∈ earlier, y.2.refusal? c.failurePolicy = none) ∧
      x.2.refusal? c.failurePolicy = some e
  /-- A stream is blocked by one of its rounds. -/
  blocked : ((stream c guard chunks failure).run judge s).1.2.request.isBlocked = true ↔
    ∃ before r after, (Course.ofArrivals c (arrivalsOf chunks failure)).rounds =
      before ++ r :: after ∧ RefusedAt c guard judge s before r
  /-- The rounds before the refused one are released, and nothing else. -/
  released : ∀ before r after, (Course.ofArrivals c (arrivalsOf chunks failure)).rounds =
    before ++ r :: after → RefusedAt c guard judge s before r →
      released = before.flatMap Round.raws

/-- What happens in a run, in order. -/
structure IsLogged (c : ContentSecurity) (guard : Guard) (chunks : List Bytes)
    (failure : Option String) (judge : Consult.Judge σ) (s : σ) : Prop where
  /-- It is all that happens while the client takes one item after the other. -/
  taken : Takes judge c (attach c guard) s (arrivalsOf chunks failure)
    (streamLog c guard chunks failure judge s)
    (((stream c guard chunks failure).run judge s).1.2,
      ((stream c guard chunks failure).run judge s).2)
  /-- After a refusal only what waits is handed out: nobody is asked, and nothing is pulled. -/
  silent : SilentAfterRefusal c.failurePolicy (streamLog c guard chunks failure judge s)
  items : (streamLog c guard chunks failure judge s).filterMap Event.item? =
    ((stream c guard chunks failure).run judge s).1.1
  exchanges : (streamLog c guard chunks failure judge s).filterMap Event.exchange? =
    (stream c guard chunks failure).exchanges judge s
  arrivals : (streamLog c guard chunks failure judge s).filterMap Event.arrival? <+:
    arrivalsOf chunks failure

variable {c : ContentSecurity} {guard : Guard} {chunks : List Bytes} {failure : Option String}
  {judge : Consult.Judge σ} {s : σ}

/-- A stream is blocked by one of its rounds. -/
theorem isBlocked_settled_iff {arrivals : List Arrival} :
    ((settled c guard arrivals).run judge s).1.1.isBlocked = true ↔
      ∃ before r after, (Course.ofArrivals c arrivals).rounds = before ++ r :: after ∧
        RefusedAt c guard judge s before r := by
  refine ⟨exists_refusedAfter rfl, ?_⟩
  rintro ⟨before, r, after, hrounds, hr⟩
  obtain ⟨e, hno⟩ := RefusedAfter.isRefused rfl hr after
  simp [settled, hrounds, Request.isBlocked, hno.payload]

/-- The payload of a stream that is blocked is the envelope of the last verdict. -/
theorem refusal_settled {arrivals : List Arrival} {payload : Bytes}
    (h : ((settled c guard arrivals).run judge s).1.1.payload = some payload) :
    ∃ e earlier x, payload = e.bytes ∧
      (settled c guard arrivals).exchanges judge s = earlier ++ [x] ∧
      (∀ y ∈ earlier, y.2.refusal? c.failurePolicy = none) ∧
      x.2.refusal? c.failurePolicy = some e := by
  obtain ⟨_, _, _, e, _, hpayload, hno⟩ := exists_isRefused_settleAll rfl h
  obtain ⟨earlier, x, hxs, hearlier, hx⟩ := hno.refused
  exact ⟨e, earlier, x, hpayload, hxs, hearlier, hx⟩

/-- The pieces that a stream releases: those of all rounds, or those before the refused one. -/
theorem exists_released (c : ContentSecurity) (guard : Guard) (chunks : List Bytes)
    (failure : Option String) (judge : Consult.Judge σ) (s : σ) :
    let course := Course.ofArrivals c (arrivalsOf chunks failure)
    let x := (settled c guard (arrivalsOf chunks failure)).run judge s
    ∃ released : List Bytes,
      course.items x.1 = released.map .ok ++ ending failure x.1.1.payload ∧
      released.flatten <+: chunks.flatten ∧
      (x.1.1.payload = none → failure = none → released.flatten = chunks.flatten) ∧
      ∀ before r after, course.rounds = before ++ r :: after →
        RefusedAt c guard judge s before r → released = before.flatMap Round.raws := by
  intro course x
  have hbytes := Course.flatten_prefix c chunks failure
  rcases settleAll_isLetGo_or_isRefused c judge s
      (q := .ofGuard c.windowSize.toNat guard) rfl course.rounds with
    hgo | ⟨before, r, after, e, hrounds, hno⟩
  · have hpayload : x.1.1.payload = none := hgo.payload
    have hreleased : x.1.2 = course.rounds.flatMap Round.raws := hgo.released
    have hunblocked := Request.isBlocked_eq_false_iff.2 hpayload
    refine ⟨course.rounds.flatMap Round.raws ++ course.tail, ?_, hbytes, ?_, ?_⟩
    · rw [Course.items, hunblocked, hpayload, hreleased]
      simp [Course.epilogue, ending, course]
    · rintro - rfl
      have hraws := Course.flatten_raws c chunks
      simpa [arrivalsOf, course] using hraws
    · intro before r after hrounds hr
      rw [isBlocked_settled_iff.2 ⟨before, r, after, hrounds, hr⟩] at hunblocked
      contradiction
  · have hpayload : x.1.1.payload = some e.bytes := hno.payload
    have hreleased : x.1.2 = before.flatMap Round.raws ++ [e.bytes] := hno.released
    refine ⟨before.flatMap Round.raws, ?_, ?_, ?_, ?_⟩
    · rw [Course.items, hpayload, hreleased]
      simp [Request.isBlocked, hpayload, ending]
    · refine List.IsPrefix.trans ?_ hbytes
      rw [hrounds, List.flatMap_append, List.append_assoc, List.flatten_append]
      exact List.prefix_append _ _
    · intro h
      rw [hpayload] at h
      contradiction
    · -- the round that is refused is the only one
      intro before' r' after' hrounds' hr'
      obtain ⟨e', hno'⟩ := RefusedAfter.isRefused rfl hr' after'
      rw [← hrounds'] at hno'
      exact (List.append_inj' (hreleased.symm.trans hno'.released) rfl).1

/-- Every run of every stream has the shape. -/
theorem exists_isShaped (c : ContentSecurity) (guard : Guard) (chunks : List Bytes)
    (failure : Option String) (judge : Consult.Judge σ) (s : σ) :
    ∃ released, IsShaped c guard chunks failure judge s released := by
  obtain ⟨hitems, hrequest, hreports, -⟩ :=
    run_drain c guard (arrivalsOf chunks failure) judge s
  have hexchanges := exchanges_drain c guard (arrivalsOf chunks failure) judge s
  obtain ⟨released, hreleased, hprefix, hall, hrefused⟩ :=
    exists_released c guard chunks failure judge s
  rw [← hrequest] at hreports hreleased hall
  refine ⟨released, ?_⟩
  constructor
  case items =>
    rw [stream, hitems]
    exact hreleased
  case released_prefix => exact hprefix
  case released_all => exact hall
  case reports => exact hreports
  case payload =>
    intro payload h
    rw [stream, hexchanges]
    exact refusal_settled (hrequest ▸ h)
  case blocked =>
    rw [stream, hrequest]
    exact isBlocked_settled_iff
  case released => exact hrefused

theorem isLogged_stream (c : ContentSecurity) (guard : Guard) (chunks : List Bytes)
    (failure : Option String) (judge : Consult.Judge σ) (s : σ) :
    IsLogged c guard chunks failure judge s where
  taken := takes_log _ _ _
  silent := silentAfterRefusal_log rfl rfl s _
  items := items_log _ _ _
  exchanges := exchanges_log _ _ _
  arrivals := arrivals_log _ _ _

/-- Every run of every stream has the shape. To a client that takes one item after the other it
happens in the order of the log, where nobody is asked and nothing is pulled after a refusal. -/
theorem stream_isShaped (c : ContentSecurity) (guard : Guard) (chunks : List Bytes)
    (failure : Option String) (judge : Consult.Judge σ) (s : σ) :
    (∃ released, IsShaped c guard chunks failure judge s released) ∧
      IsLogged c guard chunks failure judge s :=
  ⟨exists_isShaped c guard chunks failure judge s, isLogged_stream c guard chunks failure judge s⟩

end Interceptor

end ModerationGateway.Moderation
