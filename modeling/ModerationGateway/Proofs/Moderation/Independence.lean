import ModerationGateway.Proofs.Breaker.Permits
import ModerationGateway.Proofs.Moderation.Alone
import ModerationGateway.Proofs.Moderation.Crowd

/-!
# Streams do not interfere

If the checker has an answer for every text, in time, then a shared breaker sees no failure, as
long as every check finds a permit. It stays closed, and every stream gets the answers that it gets
alone.

* `Follows`: a stream is on its way to what it comes to alone;
* `Crowd.OnTheWay`: all streams are, and the holders before them are as they were;
* `Crowd.IsServed`: the breaker is calm and its permits are accounted for;
* `Crowd.IsServing`, `Crowd.IsServing.act`, `Crowd.IsServing.run`: both stay so;
* `Crowd.ChecksAsGate`: the acts of a check do together what the gate does;
* `Crowd.AsAlone`, `Crowd.run_asAlone`: every stream comes to what it comes to alone.
-/

namespace ModerationGateway.Moderation

open ModerationGateway.Breaker ModerationGateway.Stream

variable {σ : Type}

/-! ### A stream on its way -/

/-- A stream with nobody else, from its start. -/
def alone (c : ContentSecurity) (id : RequestId) (arrivals : List Arrival) :
    Consult (List Interceptor.Item × Interceptor) :=
  Interceptor.drain c (.attach c ⟨id, false⟩) arrivals

/-- A check fits the reading: it is for the question that waits, and brings its answer. -/
def Errand.Fits (f : String → Verdict) (r : Reading) (shown : List Question) : Errand → Prop
  | idle => shown = r.exchanges.map (·.1)
  | admitted a =>
    a = .normal ∧ (∃ q next, r.stage = .asking q next) ∧ shown = r.exchanges.map (·.1)
  | running a result =>
    a = .normal ∧ ∃ q next, r.stage = .asking q next ∧ result = .ok (f q.text) ∧
      shown = r.exchanges.map (·.1) ++ [q]
  | leaving v =>
    ∃ q next, r.stage = .asking q next ∧ v = f q.text ∧ shown = r.exchanges.map (·.1) ++ [q]

/-- A stream is on its way to what it comes to alone. -/
structure Follows (c : ContentSecurity) (f : String → Verdict) (id : RequestId) (m : Member)
    (r : Reading) : Prop where
  run : (r.whole c).run (told f) () = (alone c id m.arrivals).run (told f) ()
  exchanges : r.exchanges ++ (r.whole c).exchanges (told f) () =
    (alone c id m.arrivals).exchanges (told f) ()
  errand : m.errand.Fits f r m.shown

namespace Follows

variable {c : ContentSecurity} {f : String → Verdict} {id : RequestId} {m : Member} {r : Reading}

theorem attach (c : ContentSecurity) (f : String → Verdict) (id : RequestId)
    (arrivals : List Arrival) :
    Follows c f id ⟨arrivals, .idle, []⟩ (.ofInterceptor (.attach c ⟨id, false⟩) arrivals) := by
  constructor
  · rw [Reading.whole_ofInterceptor]
    rfl
  · rw [Reading.whole_ofInterceptor]
    rfl
  · rfl

/-- There is no check, or it is for a question that waits. -/
theorem idle_or_asking (h : Follows c f id m r) :
    (m.errand = .idle ∧ m.shown = r.exchanges.map (·.1)) ∨ ∃ q next, r.stage = .asking q next := by
  have hfits := h.errand
  cases herrand : m.errand with
  | idle =>
    rw [herrand] at hfits
    exact .inl ⟨rfl, hfits⟩
  | admitted a =>
    rw [herrand] at hfits
    exact .inr hfits.2.1
  | running a result =>
    rw [herrand] at hfits
    obtain ⟨-, q, next, hstage, -⟩ := hfits
    exact .inr ⟨q, next, hstage⟩
  | leaving v =>
    rw [herrand] at hfits
    obtain ⟨q, next, hstage, -⟩ := hfits
    exact .inr ⟨q, next, hstage⟩

/-- The reader goes on. -/
theorem advance (h : Follows c f id m r) : Follows c f id m (r.advance c) := by
  rcases h.idle_or_asking with ⟨hidle, hshown⟩ | ⟨q, next, hstage⟩
  · constructor
    · rw [Reading.whole_advance]
      exact h.run
    · rw [Reading.whole_advance, Reading.exchanges_advance]
      exact h.exchanges
    · rw [hidle]
      exact hshown.trans (by rw [Reading.exchanges_advance])
  · rw [Reading.advance_of_ne_ready (by simp [hstage])]
    exact h

/-- A check comes further. -/
theorem bring (h : Follows c f id m r) (errand : Errand) (shown : List Question)
    (hfits : errand.Fits f r shown) : Follows c f id { m with errand, shown } r :=
  ⟨h.run, h.exchanges, hfits⟩

/-- The answer to the question that waits comes. -/
theorem answer (h : Follows c f id m r) {q : Question} {next : Verdict → Consult Interceptor}
    (hstage : r.stage = .asking q next) (hshown : m.shown = r.exchanges.map (·.1) ++ [q]) :
    Follows c f id { m with errand := .idle } (r.answer (f q.text)) := by
  have hrun := h.run
  have hexchanges := h.exchanges
  have hanswer : (r.answer (f q.text)).exchanges = r.exchanges ++ [(q, f q.text)] := by
    rw [Reading.answer_of_asking hstage, Reading.exchanges_resume]
  rw [Reading.whole_of_asking hstage] at hrun hexchanges
  refine ⟨hrun, ?_, ?_⟩
  · rw [hanswer, List.append_assoc]
    exact hexchanges
  · show m.shown = _
    rw [hshown, hanswer]
    simp

/-- A stream that has been read to the end has come to what it comes to alone. -/
theorem of_ended (h : Follows c f id m r) (hover : r.stage = .ended) :
    ((alone c id m.arrivals).run (told f) ()).1 = (r.items, r.interceptor) ∧
      (alone c id m.arrivals).exchanges (told f) () = r.exchanges ∧
      m.shown = (alone c id m.arrivals).questions (told f) () := by
  have hrun := h.run
  have hexchanges := h.exchanges
  rw [Reading.whole_of_ended hover] at hrun hexchanges
  rw [Consult.exchanges_done, List.append_nil] at hexchanges
  refine ⟨by rw [← hrun]; rfl, hexchanges.symm, ?_⟩
  rw [Consult.questions, ← hexchanges]
  rcases h.idle_or_asking with ⟨-, hshown⟩ | ⟨q, next, hstage⟩
  · exact hshown
  · rw [hover] at hstage
    contradiction

end Follows

/-! ### All streams on their way -/

namespace Fleet

variable {fl : Fleet} {k : Nat} {rule : String} {c : ContentSecurity} {r r' : Reading}

/-- A stream that changes and is over then is gone then. -/
theorem holders_change (hget : fl.holders[k]? = some ⟨rule, .stream c r, r.isOver⟩)
    {alter : Holding → Holding} (halter : alter (.stream c r) = .stream c r')
    (hover : r.isOver = true → r' = r) :
    (fl.change k alter).holders = fl.holders.set k ⟨rule, .stream c r', r'.isOver⟩ := by
  obtain ⟨hk, hh⟩ := List.getElem?_eq_some_iff.1 hget
  cases hgone : r.isOver with
  | true =>
    rw [change_of_none (live?_eq_none hget hgone), hover hgone, ← hh, List.set_getElem_self]
  | false =>
    rw [change_of_live (live?_eq_some.2 ⟨hget, hgone⟩), halter]
    unfold put
    cases hafter : r'.isOver <;> simp [Holding.isOver, hafter, letGo, hgone]

end Fleet

namespace Crowd

/-- How many checks have a permit. -/
def holding (u : Crowd σ) : Nat := u.members.countP (·.errand.hasPermit)

variable {g : Gate σ} {f : String → Verdict} {before : Fleet} {u : Crowd σ} {i : Nat} {m : Member}

/-- Every stream is on its way, and those who had a guard before are as they were. -/
structure OnTheWay (g : Gate σ) (f : String → Verdict) (before : Fleet) (u : Crowd σ) : Prop where
  sound : u.fleet.IsSound
  before : u.fleet.holders.take u.first = before.holders
  length : u.fleet.holders.length = u.first + u.members.length
  follows : ∀ i (m : Member), u.members[i]? = some m → ∃ rule r,
    u.fleet.holders[u.first + i]? = some ⟨rule, .stream g.settings r, r.isOver⟩ ∧
      Follows g.settings f (u.first + i) m r

namespace OnTheWay

theorem start (hbefore : before.IsSound) (peers : σ) (now : Nat) :
    OnTheWay g f before (start g before peers now) :=
  ⟨hbefore, List.take_length, rfl, fun i m hm => by simp [Crowd.start] at hm⟩

/-- The question of a stream is the one that waits in its reading. -/
theorem exists_asking {rule : String} {r : Reading}
    (hget : u.fleet.holders[u.first + i]? = some ⟨rule, .stream g.settings r, r.isOver⟩)
    {q : Question} (hq : u.question? i = some q) : ∃ next, r.stage = .asking q next := by
  have hr : u.reading? i = some r := by simp [reading?, hget, Holding.reading?]
  rw [question?, hr, Option.bind_some, Reading.question?] at hq
  split at hq
  · next q' next hstage =>
    obtain rfl := Option.some.inj hq
    exact ⟨next, hstage⟩
  · contradiction

/-- The reading of a stream. -/
theorem exists_reading (h : OnTheWay g f before u) (hm : u.members[i]? = some m) :
    ∃ r, u.reading? i = some r ∧ Follows g.settings f (u.first + i) m r := by
  obtain ⟨rule, r, hget, hfollows⟩ := h.follows i m hm
  exact ⟨r, by simp [reading?, hget, Holding.reading?], hfollows⟩

theorem attach (h : OnTheWay g f before u) (rule : String) (arrivals : List Arrival) :
    OnTheWay g f before (u.act g (.attach rule arrivals)) := by
  have hholders : (u.act g (.attach rule arrivals)).fleet.holders = u.fleet.holders ++
      [⟨rule, .stream g.settings (.ofInterceptor
        (.attach g.settings ⟨u.fleet.active.nextId, false⟩) arrivals), false⟩] := rfl
  have hnext : u.fleet.active.nextId = u.first + u.members.length :=
    h.sound.nextId.trans h.length
  constructor
  case sound => exact h.sound.step (.attach rule g.settings arrivals)
  case before =>
    show List.take u.first _ = _
    rw [hholders, List.take_append_of_le_length (by rw [h.length]; omega), h.before]
  case length =>
    rw [hholders, List.length_append, h.length]
    simp [act, Nat.add_assoc]
  case follows =>
    intro i m hm
    show ∃ rule' r, (u.act g (.attach rule arrivals)).fleet.holders[u.first + i]? = _ ∧ _
    rw [hholders]
    rcases Nat.lt_or_ge i u.members.length with hi | hi
    · have hm' : u.members[i]? = some m := by
        rwa [act, List.getElem?_append_left hi] at hm
      obtain ⟨rule', r, hget, hfollows⟩ := h.follows i m hm'
      refine ⟨rule', r, ?_, hfollows⟩
      rwa [List.getElem?_append_left (by rw [h.length]; omega)]
    · rw [act, List.getElem?_append_right hi, List.getElem?_singleton] at hm
      split at hm
      · next hlast =>
        have hi' : i = u.members.length := by omega
        obtain rfl := Option.some.inj hm
        refine ⟨rule, _, ?_, .attach g.settings f (u.first + i) arrivals⟩
        rw [hi', ← h.length, List.getElem?_concat_length, h.length, hnext]
        rfl
      · contradiction

/-- The check of a stream comes further. -/
theorem set (h : OnTheWay g f before u) {rule : String} {r : Reading}
    (hget : u.fleet.holders[u.first + i]? = some ⟨rule, .stream g.settings r, r.isOver⟩)
    {m' : Member} (hm' : Follows g.settings f (u.first + i) m' r)
    {now : Nat} {b : CircuitBreaker} {peers : σ} :
    OnTheWay g f before ⟨now, b, peers, u.fleet, u.first, u.members.set i m'⟩ := by
  refine ⟨h.sound, h.before, by simpa using h.length, fun j mj hmj => ?_⟩
  rw [List.getElem?_set] at hmj
  split at hmj
  · next hij =>
    split at hmj
    · obtain rfl := Option.some.inj hmj
      exact ⟨rule, r, hij ▸ hget, hij ▸ hm'⟩
    · contradiction
  · exact h.follows j mj hmj

/-- The reading of a stream goes on. -/
theorem change (h : OnTheWay g f before u) {rule : String} {r r' : Reading}
    (hget : u.fleet.holders[u.first + i]? = some ⟨rule, .stream g.settings r, r.isOver⟩)
    (alter : Holding → Holding) (halter : alter (.stream g.settings r) = .stream g.settings r')
    (hsound : (u.fleet.change (u.first + i) alter).IsSound) (hover : r.isOver = true → r' = r)
    {m' : Member} (hm' : Follows g.settings f (u.first + i) m' r')
    {now : Nat} {b : CircuitBreaker} {peers : σ} :
    OnTheWay g f before
      ⟨now, b, peers, u.fleet.change (u.first + i) alter, u.first, u.members.set i m'⟩ := by
  have hholders := Fleet.holders_change hget halter hover
  have hi : u.first + i < u.fleet.holders.length := (List.getElem?_eq_some_iff.1 hget).1
  constructor
  case sound => exact hsound
  case before =>
    show List.take u.first (u.fleet.change (u.first + i) alter).holders = _
    rw [hholders, List.take_set_of_le (Nat.le_add_right u.first i), h.before]
  case length =>
    show (u.fleet.change (u.first + i) alter).holders.length = u.first + (u.members.set i m').length
    rw [hholders, List.length_set, List.length_set, h.length]
  case follows =>
    intro j mj hmj
    show ∃ rule' rj, (u.fleet.change (u.first + i) alter).holders[u.first + j]? = _ ∧ _
    rw [hholders]
    rw [List.getElem?_set] at hmj
    split at hmj
    · next hij =>
      split at hmj
      · obtain rfl := Option.some.inj hmj
        subst hij
        exact ⟨rule, r', List.getElem?_set_self hi, hm'⟩
      · contradiction
    · next hij =>
      obtain ⟨rule', rj, hgetj, hfollowsj⟩ := h.follows j mj hmj
      refine ⟨rule', rj, ?_, hfollowsj⟩
      rwa [List.getElem?_set_ne (by omega)]

/-- The reader of a stream goes on. -/
theorem advance (h : OnTheWay g f before u) (i : Nat) :
    OnTheWay g f before (u.act g (.advance i)) := by
  have hsound := h.sound.step (.advance (u.first + i))
  cases hm : u.members[i]? with
  | none =>
    have hi : u.fleet.holders[u.first + i]? = none := by
      rw [List.getElem?_eq_none_iff] at hm ⊢
      rw [h.length]
      omega
    have hnone : u.act g (.advance i) = u := by
      have hlive : u.fleet.live? (u.first + i) = none := by simp [Fleet.live?, hi]
      simp only [act, Fleet.step, Fleet.change_of_none hlive]
    rw [hnone]
    exact h
  | some m =>
    obtain ⟨rule, r, hget, hfollows⟩ := h.follows i m hm
    have hset : u.members.set i m = u.members := by
      obtain ⟨hi, rfl⟩ := List.getElem?_eq_some_iff.1 hm
      exact List.set_getElem_self hi
    have hstill : r.isOver = true → r.advance g.settings = r := fun hover =>
      Reading.advance_of_ne_ready (Reading.stage_of_isOver hover ▸ by simp)
    have hchange : OnTheWay g f before ⟨u.now, u.breaker, u.peers,
        u.fleet.change (u.first + i) .advance, u.first, u.members.set i m⟩ :=
      h.change hget .advance rfl hsound hstill hfollows.advance
    rwa [hset] at hchange

/-- The question of a stream is answered. -/
theorem answer (h : OnTheWay g f before u) {rule : String} {r : Reading}
    (hget : u.fleet.holders[u.first + i]? = some ⟨rule, .stream g.settings r, r.isOver⟩)
    (hfollows : Follows g.settings f (u.first + i) m r) {q : Question}
    {next : Verdict → Consult Interceptor} (hstage : r.stage = .asking q next)
    (hshown : m.shown = r.exchanges.map (·.1) ++ [q])
    {now : Nat} {b : CircuitBreaker} {peers : σ} :
    OnTheWay g f before ⟨now, b, peers, u.fleet.step (.answer (u.first + i) (f q.text)), u.first,
      u.members.set i { m with errand := .idle }⟩ := by
  have hstill : r.isOver = true → r.answer (f q.text) = r := by
    intro hover
    rw [Reading.stage_of_isOver hover] at hstage
    contradiction
  exact h.change hget (.answer (f q.text)) rfl (h.sound.step (.answer _ _)) hstill
    (hfollows.answer hstage hshown)

end OnTheWay

/-! ### The breaker that they share -/

/-- The breaker is calm and its permits are accounted for. -/
structure IsServed (g : Gate σ) (u : Crowd σ) : Prop where
  settings : u.breaker.settings = g.settings.breaker
  calm : u.breaker.machine.IsCalm
  permits : u.breaker.available + u.holding = g.settings.breaker.permits
  shown : ∀ m ∈ u.members, m.shown ≠ [] → 0 < g.settings.breaker.permits

namespace IsServed

/-- If there are no more checks in flight than permits, a check that was let in finds one. -/
theorem available_ne_zero (h : IsServed g u) (hm : u.members[i]? = some m) {a : Admission}
    (herrand : m.errand = .admitted a) (hroom : u.inFlight ≤ g.settings.breaker.permits) :
    u.breaker.available ≠ 0 := by
  -- without this check there is one less in flight, and every permit that is out is with one
  let others := u.members.set i { m with errand := .idle }
  have hholding : others.countP (·.errand.hasPermit) = u.holding := by
    simpa [herrand, Errand.hasPermit, holding] using
      countP_set_add hm (·.errand.hasPermit) { m with errand := .idle }
  have hflight : others.countP (fun m => !m.errand.isIdle) + 1 = u.inFlight := by
    simpa [herrand, Errand.isIdle, inFlight] using
      countP_set_add hm (fun m => !m.errand.isIdle) { m with errand := .idle }
  have hle : others.countP (·.errand.hasPermit) ≤ others.countP fun m => !m.errand.isIdle := by
    refine List.countP_mono_left fun m' _ hm' => ?_
    cases herrand' : m'.errand <;> simp_all [Errand.hasPermit, Errand.isIdle]
  have hpermits := h.permits
  omega

/-- A member changes, and the permits that are out with it. -/
theorem set (h : IsServed g u) (hm : u.members[i]? = some m) (m' : Member)
    (hshown : m'.shown ≠ [] → 0 < g.settings.breaker.permits) (b : CircuitBreaker)
    (hsettings : b.settings = u.breaker.settings) (hcalm : b.machine.IsCalm)
    (havailable : b.available + (if m'.errand.hasPermit then 1 else 0) =
      u.breaker.available + if m.errand.hasPermit then 1 else 0)
    {now : Nat} {peers : σ} {fleet : Fleet} :
    IsServed g ⟨now, b, peers, fleet, u.first, u.members.set i m'⟩ := by
  have hcount : (u.members.set i m').countP (·.errand.hasPermit) +
      (if m.errand.hasPermit then 1 else 0) =
        u.holding + if m'.errand.hasPermit then 1 else 0 :=
    countP_set_add hm (·.errand.hasPermit) m'
  have hpermits := h.permits
  constructor
  · exact hsettings.trans h.settings
  · exact hcalm
  · show b.available + (u.members.set i m').countP (·.errand.hasPermit) = _
    omega
  · intro m₁ hm₁
    rcases List.mem_or_eq_of_mem_set hm₁ with hmem | rfl
    · exact h.shown m₁ hmem
    · exact hshown

end IsServed

/-- Every stream is on its way, and the breaker that they share is calm. -/
structure IsServing (g : Gate σ) (f : String → Verdict) (before : Fleet) (u : Crowd σ) : Prop where
  onTheWay : OnTheWay g f before u
  served : IsServed g u

namespace IsServing

theorem start (hbefore : before.IsSound) (peers : σ) (now : Nat) :
    IsServing g f before (start g before peers now) :=
  ⟨.start hbefore peers now, rfl, Machine.isCalm_fresh now, rfl, fun m hm => by
    simp [Crowd.start] at hm⟩

/-- A question that comes is let in. -/
theorem come (h : IsServing g f before u) (hm : u.members[i]? = some m)
    (hidle : m.errand = .idle) {q : Question} (hq : u.question? i = some q) :
    IsServing g f before (u.come i m) := by
  obtain ⟨rule, r, hget, hfollows⟩ := h.onTheWay.follows i m hm
  obtain ⟨next, hstage⟩ := OnTheWay.exists_asking hget hq
  have hfits := hfollows.errand
  rw [hidle] at hfits
  let b := { u.breaker with machine := u.breaker.machine.roll u.breaker.settings u.now }
  let m' := { m with errand := .admitted .normal }
  have hcome : u.come i m = ⟨u.now, b, u.peers, u.fleet, u.first, u.members.set i m'⟩ := by
    unfold Crowd.come
    rw [h.served.calm.enter]
    rfl
  rw [hcome]
  constructor
  · exact h.onTheWay.set hget (hfollows.bring (.admitted .normal) m.shown
      ⟨rfl, ⟨q, next, hstage⟩, hfits⟩)
  · exact h.served.set hm m' (h.served.shown m (List.mem_of_getElem? hm)) b rfl
      (h.served.calm.roll _ _) (by simp [b, m', hidle, Errand.hasPermit])

/-- A question that was let in finds a permit. -/
theorem acquire (h : IsServing g f before u) (hanswers : g.Answers f)
    (hm : u.members[i]? = some m) {a : Admission} (herrand : m.errand = .admitted a)
    {q : Question} (hq : u.question? i = some q)
    (hroom : u.inFlight ≤ g.settings.breaker.permits) :
    IsServing g f before (u.acquire g i m a q) := by
  obtain ⟨rule, r, hget, hfollows⟩ := h.onTheWay.follows i m hm
  have hpermit := h.served.available_ne_zero hm herrand hroom
  have hfits := hfollows.errand
  rw [herrand] at hfits
  obtain ⟨rfl, -, hshown⟩ := hfits
  obtain ⟨next, hstage⟩ := OnTheWay.exists_asking hget hq
  obtain ⟨ms, hwork, hms⟩ := hanswers q u.peers
  have hresult : ((g.checker.check g.settings q u.peers).1.deadline
      u.breaker.settings.timeoutMs.toNat).2 = .ok (f q.text) := by
    rw [hwork, h.served.settings, Work.deadline]
    simp only [hms, if_true]
    rfl
  let b := { u.breaker with available := u.breaker.available - 1 }
  let m' := { m with errand := .running .normal (.ok (f q.text)), shown := m.shown ++ [q] }
  have hacquire : u.acquire g i m .normal q = ⟨u.now, b,
      (g.checker.check g.settings q u.peers).2, u.fleet, u.first, u.members.set i m'⟩ := by
    unfold Crowd.acquire
    rw [if_neg hpermit]
    simp only [m', ← hresult]
    rfl
  rw [hacquire]
  constructor
  · exact h.onTheWay.set hget (hfollows.bring (.running .normal (.ok (f q.text))) _
      ⟨rfl, q, next, hstage, rfl, by rw [hshown]⟩)
  · have hpermits := h.served.permits
    refine h.served.set hm m' (fun _ => by omega) b rfl h.served.calm ?_
    simp only [b, m', herrand, Errand.hasPermit, if_true, Bool.false_eq_true, if_false]
    omega

/-- The checker has its answer. -/
theorem finish (h : IsServing g f before u)
    (hthreshold : 1 ≤ g.settings.breaker.errorThresholdPercentage.toNat)
    (hm : u.members[i]? = some m) {a : Admission} {result : Except (CallError Fault) Verdict}
    (herrand : m.errand = .running a result) : IsServing g f before (u.finish i m a result) := by
  obtain ⟨rule, r, hget, hfollows⟩ := h.onTheWay.follows i m hm
  have hfits := hfollows.errand
  rw [herrand] at hfits
  obtain ⟨rfl, q, next, hstage, rfl, hshown⟩ := hfits
  rw [← h.served.settings] at hthreshold
  constructor
  · exact h.onTheWay.set hget (hfollows.bring (.leaving (f q.text)) m.shown
      ⟨q, next, hstage, rfl, hshown⟩)
  · exact h.served.set hm { m with errand := .leaving (f q.text) }
      (h.served.shown m (List.mem_of_getElem? hm)) (u.breaker.record .normal true u.now) rfl
      (h.served.calm.record hthreshold _) (by simp [herrand, Errand.hasPermit])

/-- The permit is free again, and the stream has the answer. -/
theorem release (h : IsServing g f before u) (hm : u.members[i]? = some m) {v : Verdict}
    (herrand : m.errand = .leaving v) : IsServing g f before (u.release i m v) := by
  obtain ⟨rule, r, hget, hfollows⟩ := h.onTheWay.follows i m hm
  have hfits := hfollows.errand
  rw [herrand] at hfits
  obtain ⟨q, next, hstage, rfl, hshown⟩ := hfits
  constructor
  · exact h.onTheWay.answer hget hfollows hstage hshown
  · exact h.served.set hm { m with errand := .idle } (h.served.shown m (List.mem_of_getElem? hm))
      { u.breaker with available := u.breaker.available + 1 } rfl h.served.calm
      (by simp [herrand, Errand.hasPermit])

/-- Whatever happens next, every stream stays on its way, and the breaker calm. -/
theorem act (h : IsServing g f before u) (hanswers : g.Answers f)
    (hthreshold : 1 ≤ g.settings.breaker.errorThresholdPercentage.toNat)
    (hroom : u.inFlight ≤ g.settings.breaker.permits) (what : Act) :
    IsServing g f before (u.act g what) := by
  cases what with
  | wait ms =>
    exact ⟨⟨h.onTheWay.sound, h.onTheWay.before, h.onTheWay.length, h.onTheWay.follows⟩,
      ⟨h.served.settings, h.served.calm, h.served.permits, h.served.shown⟩⟩
  | attach rule arrivals =>
    refine ⟨h.onTheWay.attach rule arrivals, h.served.settings, h.served.calm, ?_, ?_⟩
    · have hholding : (u.act g (.attach rule arrivals)).holding = u.holding := by
        simp [Crowd.act, holding, Errand.hasPermit]
      rw [hholding]
      exact h.served.permits
    · intro m hm hshown
      rcases List.mem_append.1 hm with hm | hm
      · exact h.served.shown m hm hshown
      · obtain rfl := List.mem_singleton.1 hm
        contradiction
  | advance i =>
    exact ⟨h.onTheWay.advance i,
      ⟨h.served.settings, h.served.calm, h.served.permits, h.served.shown⟩⟩
  | come i =>
    obtain hstay | ⟨m, q, hm, hidle, hq, hcome⟩ := act_come_cases g u i
    · rwa [hstay]
    · rw [hcome]
      exact h.come hm hidle hq
  | acquire i =>
    obtain hstay | ⟨m, q, a, hm, herrand, hq, hacquire⟩ := act_acquire_cases g u i
    · rwa [hstay]
    · rw [hacquire]
      exact h.acquire hanswers hm herrand hq hroom
  | finish i =>
    obtain hstay | ⟨m, a, result, hm, herrand, hfinish⟩ := act_finish_cases g u i
    · rwa [hstay]
    · rw [hfinish]
      exact h.finish hthreshold hm herrand
  | release i =>
    obtain hstay | ⟨m, v, hm, herrand, hrelease⟩ := act_release_cases g u i
    · rwa [hstay]
    · rw [hrelease]
      exact h.release hm herrand

theorem run (hanswers : g.Answers f)
    (hthreshold : 1 ≤ g.settings.breaker.errorThresholdPercentage.toNat)
    (h : IsServing g f before u) {acts : List Act}
    (hroom : ∀ n, (u.run g (acts.take n)).inFlight ≤ g.settings.breaker.permits) :
    IsServing g f before (u.run g acts) := by
  induction acts generalizing u with
  | nil => exact h
  | cons what acts ih =>
    exact ih (h.act hanswers hthreshold (hroom 0) what) fun n => hroom (n + 1)

end IsServing

/-! ### What the streams come to -/

theorem countP_eq_of_pointwise {α β : Type} {l : List α} {l' : List β} {p : α → Bool}
    {q : β → Bool} (hlength : l.length = l'.length)
    (h : ∀ (i : Nat) a b, l[i]? = some a → l'[i]? = some b → p a = q b) :
    l.countP p = l'.countP q := by
  have hmap : l.map p = l'.map q := by
    apply List.ext_getElem (by simpa using hlength)
    intro i hi hi'
    rw [List.length_map] at hi hi'
    rw [List.getElem_map, List.getElem_map]
    exact h i _ _ (List.getElem?_eq_getElem hi) (List.getElem?_eq_getElem hi')
  have hcount := congrArg (List.countP id) hmap
  rwa [List.countP_map, List.countP_map] at hcount

/-- The stream ends blocked if it is alone behind the gate. -/
def blocksAlone (g : Gate σ) (w : World σ) (m : Member) : Bool :=
  ((alone g.settings 0 m.arrivals).run g.judge w).1.2.request.isBlocked

/-- A stream has been read to the end with what it comes to alone behind a gate that nobody has
used, whatever the identity of its guard is there: the same items, the same questions shown to the
checker, and the same end. -/
structure EndsAlone (g : Gate σ) (m : Member) (r : Reading) : Prop where
  items : ∀ id w, g.IsUnused w → r.items = ((alone g.settings id m.arrivals).run g.judge w).1.1
  shown : ∀ id w, g.IsUnused w → m.shown = (alone g.settings id m.arrivals).questions g.judge w
  blocked : ∀ id w, g.IsUnused w → r.interceptor.request.isBlocked =
    ((alone g.settings id m.arrivals).run g.judge w).1.2.request.isBlocked

/-- A check that nothing comes between is the gate's own: the stream has the verdict of the gate, and
the time, the breaker and the peers are as the gate leaves them. -/
def ChecksAsGate (g : Gate σ) (u : Crowd σ) : Prop :=
  ∀ (i : Nat) (m : Member) (q : Question) (breakers : Breaker.Registry),
    u.members[i]? = some m → m.errand = .idle → u.question? i = some q →
      breakers.breaker? g.breaker = some u.breaker →
        let (v, w) := g.judge ⟨u.now, breakers, u.peers⟩ q
        let called := u.breaker.call u.now (g.checker.check g.settings q u.peers).1
        ∃ breaker, w.breakers.breaker? g.breaker = some breaker ∧
          u.run g [.come i, .acquire i, .wait (w.now - u.now), .finish i, .release i] =
            { u with now := w.now, breaker, peers := w.peers }.reply i
              { m with shown := if called.started then m.shown ++ [q] else m.shown } v

theorem checksAsGate (g : Gate σ) (u : Crowd σ) : u.ChecksAsGate g := by
  intro i m q breakers hm hidle hq hb
  have hjudge : g.judge ⟨u.now, breakers, u.peers⟩ q =
      g.putThrough u.breaker ⟨u.now, breakers, u.peers⟩ q := by
    rw [Gate.judge, hb]
  rw [hjudge]
  exact ⟨_, Gate.breaker?_update hb _, check_eq hm hidle hq breakers⟩

/-- Every stream comes to what it comes to alone, and in the end the registry has counted each of
them once, and once more if it blocks alone. -/
structure AsAlone (g : Gate σ) (before : Fleet) (u : Crowd σ) : Prop where
  streams : ∀ i (m : Member), u.members[i]? = some m → ∃ r, u.reading? i = some r ∧
    (r.isOver = true → EndsAlone g m r)
  counted : (∀ i r, u.reading? i = some r → r.isOver = true) →
    u.fleet.active.finished = before.active.finished + u.members.length ∧
      ∀ w, g.IsUnused w → u.fleet.active.blocked =
        before.active.blocked + u.members.countP (blocksAlone g w)

namespace IsServing

theorem endsAlone (h : IsServing g f before u) (hanswers : g.Answers f)
    (hthreshold : 1 ≤ g.settings.breaker.errorThresholdPercentage.toNat)
    (hm : u.members[i]? = some m) {r : Reading} (hfollows : Follows g.settings f (u.first + i) m r)
    (hover : r.isOver = true) : EndsAlone g m r := by
  obtain ⟨hrun, hexchanges, hshown⟩ := hfollows.of_ended (Reading.stage_of_isOver hover)
  have hsame : ∀ id w, g.IsUnused w →
      ((alone g.settings id m.arrivals).run g.judge w).1.1 = r.items ∧
        ((alone g.settings id m.arrivals).run g.judge w).1.2.request.isBlocked =
          r.interceptor.request.isBlocked ∧
        (alone g.settings id m.arrivals).questions g.judge w = m.shown := by
    intro id w hw
    obtain ⟨hitems, hblocked, hasked⟩ :=
      Interceptor.run_drain_named g.settings (u.first + i) id m.arrivals (told f) ()
    -- without permits nobody was shown a question, so nobody is asked
    have hpermits : 0 < g.settings.breaker.permits ∨
        (alone g.settings id m.arrivals).exchanges (told f) () = [] := by
      by_cases hnone : m.shown = []
      · right
        rw [hshown, Consult.questions, List.map_eq_nil_iff] at hnone
        exact hasked.trans hnone
      · exact .inl (h.served.shown m (List.mem_of_getElem? hm) hnone)
    obtain ⟨hgate, hgateAsked⟩ := Gate.run_eq_told hanswers hthreshold hw hpermits
    rw [hgate, Consult.questions, hgateAsked]
    refine ⟨?_, ?_, ?_⟩
    · exact hitems.trans (congrArg Prod.fst hrun)
    · exact hblocked.trans (congrArg (fun x => x.2.request.isBlocked) hrun)
    · rw [hshown, Consult.questions]
      exact congrArg _ hasked
  exact ⟨fun id w hw => (hsame id w hw).1.symm, fun id w hw => (hsame id w hw).2.2.symm,
    fun id w hw => (hsame id w hw).2.1.symm⟩

/-- A stream that has been read to the end is gone, and is counted as blocked if it is. -/
theorem exists_lost (h : IsServing g f before u) (hm : u.members[i]? = some m)
    (hover : ∀ i r, u.reading? i = some r → r.isOver = true) :
    ∃ holder r, u.fleet.holders[u.first + i]? = some holder ∧ holder.isGone = true ∧
      holder.isLost = r.interceptor.request.isBlocked ∧ r.isOver = true ∧
      Follows g.settings f (u.first + i) m r := by
  obtain ⟨rule, r, hget, hfollows⟩ := h.onTheWay.follows i m hm
  have hgone : r.isOver = true := hover i r (by simp [reading?, hget, Holding.reading?])
  have hpayload := (h.onTheWay.sound.holders _ _ hget).payload _ rfl
  refine ⟨_, r, hget, hgone, ?_, hgone, hfollows⟩
  rw [Request.isBlocked, hpayload, Holder.isLost, hgone]
  cases Holding.payloads (.stream g.settings r) <;> rfl

theorem asAlone (h : IsServing g f before u) (hbefore : before.IsSound) (hanswers : g.Answers f)
    (hthreshold : 1 ≤ g.settings.breaker.errorThresholdPercentage.toNat) : AsAlone g before u := by
  constructor
  case streams =>
    intro i m hm
    obtain ⟨r, hr, hfollows⟩ := h.onTheWay.exists_reading hm
    exact ⟨r, hr, h.endsAlone hanswers hthreshold hm hfollows⟩
  case counted =>
    intro hover
    -- those who had a guard before, and behind them the streams
    let streams := u.fleet.holders.drop u.first
    have hsplit : u.fleet.holders = before.holders ++ streams := by
      rw [← h.onTheWay.before, List.take_append_drop]
    have hlength : streams.length = u.members.length := by
      rw [List.length_drop, h.onTheWay.length, Nat.add_sub_cancel_left]
    have hget : ∀ {i : Nat} {m : Member}, u.members[i]? = some m → ∃ holder r,
        streams[i]? = some holder ∧ holder.isGone = true ∧
          holder.isLost = r.interceptor.request.isBlocked ∧ r.isOver = true ∧
          Follows g.settings f (u.first + i) m r := by
      intro i m hm
      obtain ⟨holder, r, hholder, hrest⟩ := h.exists_lost hm hover
      exact ⟨holder, r, by rw [List.getElem?_drop]; exact hholder, hrest⟩
    constructor
    · have hgone : streams.countP (·.isGone) = u.members.countP fun _ => true := by
        refine countP_eq_of_pointwise hlength fun i holder m hholder hm => ?_
        obtain ⟨holder', r, hholder', hisGone, -⟩ := hget hm
        obtain rfl : holder' = holder := Option.some.inj (hholder'.symm.trans hholder)
        exact hisGone
      rw [h.onTheWay.sound.finished, hsplit, List.countP_append, hgone, hbefore.finished]
      simp
    · intro w hw
      have hlost : streams.countP Holder.isLost = u.members.countP (blocksAlone g w) := by
        refine countP_eq_of_pointwise hlength fun i holder m hholder hm => ?_
        obtain ⟨holder', r, hholder', -, hisLost, hisOver, hfollows⟩ := hget hm
        obtain rfl : holder' = holder := Option.some.inj (hholder'.symm.trans hholder)
        rw [hisLost, (h.endsAlone hanswers hthreshold hm hfollows hisOver).blocked 0 w hw]
        rfl
      rw [h.onTheWay.sound.blocked, hsplit, List.countP_append, hlost, hbefore.blocked]

end IsServing

/-- If the checker has an answer for every text, in time, the breaker needs some failure to open,
and there are never more checks in flight than permits, then streams that share a gate do not
interfere: whatever the order in which everything happens, each comes to what it comes to alone. What
a check does in its acts is what the gate does, where nothing comes between them. -/
theorem run_asAlone (g : Gate σ) (f : String → Verdict) (moves : List Move) (peers : σ) (now : Nat)
    (acts : List Act) (hanswers : g.Answers f)
    (hthreshold : 1 ≤ g.settings.breaker.errorThresholdPercentage.toNat)
    (hroom : ∀ n, ((start g (Fleet.empty.run moves) peers now).run g (acts.take n)).inFlight ≤
      g.settings.breaker.permits) :
    let u := (start g (Fleet.empty.run moves) peers now).run g acts
    AsAlone g (Fleet.empty.run moves) u ∧
      u.members.map (·.arrivals) = acts.filterMap Act.arrivals? ∧ u.ChecksAsGate g := by
  intro u
  have hbefore : (Fleet.empty.run moves).IsSound := Fleet.isSound_empty.run moves
  have hserving : IsServing g f (Fleet.empty.run moves) u :=
    (IsServing.start hbefore peers now).run hanswers hthreshold hroom
  refine ⟨hserving.asAlone hbefore hanswers hthreshold, ?_, checksAsGate g u⟩
  rw [arrivals_run]
  rfl

/-- The one text that is found out is "xyz". -/
def findsXyz (text : String) : Verdict :=
  if text = "xyz" then .block "found" "reader" else .pass

/-- A gate that checks two texts at a time. -/
def reader : Gate Nat where
  settings := { Interceptor.openSettings with
    breaker := { BreakerSettings.standard with maxConcurrent := 2 } }
  checker := ⟨"reader", fun _ q n => (⟨some 7, .ok (findsXyz q.text)⟩, n + 1)⟩
  breakerName := "reader:chat"
  breaker := 0

/-- Two streams, the second of which is attached while the first is checked. Both are checked at
once, and the first verdict comes between the two permits. -/
def crossed : List Act :=
  [.attach "chat" [.chunk (deltaEvent "ab" ++ deltaEvent "c")], .advance 0, .come 0,
    .attach "chat" [.chunk (deltaEvent "xy"), .chunk (deltaEvent "z")], .acquire 0, .advance 1,
    .advance 1, .come 1, .wait 7, .finish 0, .acquire 1, .release 0, .wait 7, .advance 0,
    .finish 1, .advance 0, .advance 0, .release 1, .advance 1, .advance 0, .advance 0, .advance 1]

/-- Beside a guard that stays, the two streams are both counted, and the second as blocked. -/
theorem run_asAlone_crossed :
    let others := Fleet.empty.run [.register "other"]
    let u := (start reader others 0 0).run reader crossed
    AsAlone reader others u ∧ u.members.map (fun m => m.shown.map (·.text)) = [["abc"], ["xyz"]] ∧
      u.fleet.active = ⟨[(0, "other")], 3, 2, 1⟩ := by
  intro others u
  have hanswers : reader.Answers findsXyz := fun q peers => ⟨7, rfl, by decide⟩
  have hroom : ∀ n, ((start reader others 0 0).run reader (crossed.take n)).inFlight ≤
      reader.settings.breaker.permits := by
    have hsmall : ∀ n < 23, ((start reader others 0 0).run reader (crossed.take n)).inFlight ≤
        reader.settings.breaker.permits := by decide +kernel
    intro n
    rcases Nat.lt_or_ge n 23 with hn | hn
    · exact hsmall n hn
    · rw [List.take_of_length_le (Nat.le_trans (by decide) hn)]
      exact hsmall 22 (by decide)
  obtain ⟨halone, -⟩ := run_asAlone reader findsXyz [.register "other"] 0 0 crossed hanswers
    (by decide) hroom
  exact ⟨halone, by decide +kernel, by decide +kernel⟩

end Crowd

end ModerationGateway.Moderation
