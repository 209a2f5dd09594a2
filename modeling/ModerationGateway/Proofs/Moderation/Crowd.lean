import ModerationGateway.Moderation.Gate
import ModerationGateway.Proofs.Moderation.Fleet

/-!
# Streams that share a gate

Any number of streams are read at once behind one gate: they share its breaker, the checker and the
registry. A check goes through the breaker in several acts, and between two acts of one check the
other streams and the clock can do anything.

* `Errand`, `Member`, `Crowd`: how far a check has come, a stream, and all of them with what they
  share;
* `Act`, `Crowd.act`, `Crowd.run`: what can happen, and a run;
* `Crowd.inFlight`: how many checks are on their way;
* `Crowd.act_come_cases` and its like: all that an act can do;
* `Crowd.start_eq`, `Crowd.settle_eq`, `Crowd.check_eq`: acts that nothing comes between are the
  breaker's own `start` and `settle`, and a check of the gate;
* `Crowd.arrivals_run`: the streams are those that were attached.
-/

namespace ModerationGateway.Moderation

open ModerationGateway.Breaker ModerationGateway.Stream

variable {σ : Type}

/-- The stream, if it is one. -/
def Holding.reading? : Holding → Option Reading
  | stream _ r => some r
  | _ => none

/-- The question that waits, if one does. -/
def Reading.question? (r : Reading) : Option Question :=
  match r.stage with
  | .asking q _ => some q
  | _ => none

theorem Reading.stage_of_isOver {r : Reading} (h : r.isOver = true) : r.stage = .ended := by
  unfold isOver at h
  split at h
  · assumption
  · contradiction

/-- How far a check has come. -/
inductive Errand where
  /-- There is none. -/
  | idle
  /-- The breaker has let it in. -/
  | admitted (a : Admission)
  /-- It has a permit, and the checker works. -/
  | running (a : Admission) (result : Except (CallError Fault) Verdict)
  /-- The checker is done, and the permit is not given back. -/
  | leaving (v : Verdict)

namespace Errand

/-- There is no check. -/
def isIdle : Errand → Bool
  | idle => true
  | _ => false

theorem eq_idle {e : Errand} (h : e.isIdle = true) : e = .idle := by
  cases e <;> first | rfl | contradiction

/-- The check has a permit. -/
def hasPermit : Errand → Bool
  | running _ _ => true
  | leaving _ => true
  | _ => false

end Errand

/-- A stream behind the gate: all that arrives, the check that it waits for, and the questions that
the checker was shown for it. -/
structure Member where
  arrivals : List Arrival
  errand : Errand
  shown : List Question

/-- Streams that share a gate. Those who had a guard before them come first among the holders. -/
structure Crowd (σ : Type) where
  now : Nat
  breaker : CircuitBreaker
  peers : σ
  fleet : Fleet
  first : Nat
  members : List Member

/-- What can happen: time goes by, a stream is attached, its reader goes on, its question comes to
the breaker, asks for a permit, is answered by the checker, and gives the permit back. -/
inductive Act where
  | wait (ms : Nat)
  | attach (rule : String) (arrivals : List Arrival)
  | advance (i : Nat)
  | come (i : Nat)
  | acquire (i : Nat)
  | finish (i : Nat)
  | release (i : Nat)

/-- The stream that is attached, if one is. -/
def Act.arrivals? : Act → Option (List Arrival)
  | attach _ arrivals => some arrivals
  | _ => none

namespace Crowd

/-- Nobody has come, and others may have guards. -/
def start (g : Gate σ) (fleet : Fleet) (peers : σ) (now : Nat) : Crowd σ :=
  ⟨now, .fresh g.breakerName g.settings.breaker now, peers, fleet, fleet.holders.length, []⟩

/-- The reading of a stream. -/
def reading? (u : Crowd σ) (i : Nat) : Option Reading :=
  u.fleet.holders[u.first + i]?.bind (·.holding.reading?)

/-- The question of a stream. -/
def question? (u : Crowd σ) (i : Nat) : Option Question := (u.reading? i).bind Reading.question?

/-- A check comes further. -/
def bring (u : Crowd σ) (i : Nat) (m : Member) (errand : Errand) : Crowd σ :=
  { u with members := u.members.set i { m with errand } }

/-- A check is over, and the stream has its verdict. -/
def reply (u : Crowd σ) (i : Nat) (m : Member) (v : Verdict) : Crowd σ :=
  { u.bring i m .idle with fleet := u.fleet.step (.answer (u.first + i) v) }

/-- A question comes to the breaker. -/
def come (u : Crowd σ) (i : Nat) (m : Member) : Crowd σ :=
  match u.breaker.machine.enter u.breaker.settings u.now with
  | none => u.reply i m (Gate.verdictOf (.error .circuitOpen))
  | some (machine, a) =>
    { u with breaker := { u.breaker with machine } }.bring i m (.admitted a)

/-- A question asks for a permit. If there is one, the checker is shown the question. -/
def acquire (g : Gate σ) (u : Crowd σ) (i : Nat) (m : Member) (a : Admission) (q : Question) :
    Crowd σ :=
  if u.breaker.available = 0 then
    { u with breaker := u.breaker.record a false u.now }.reply i m
      (Gate.verdictOf (.error .rejected))
  else
    let (work, peers) := g.checker.check g.settings q u.peers
    { u with breaker := { u.breaker with available := u.breaker.available - 1 }, peers }.bring i
      { m with shown := m.shown ++ [q] }
      (.running a (work.deadline u.breaker.settings.timeoutMs.toNat).2)

/-- The checker is done, or was given up. -/
def finish (u : Crowd σ) (i : Nat) (m : Member) (a : Admission)
    (result : Except (CallError Fault) Verdict) : Crowd σ :=
  { u with breaker := u.breaker.record a result.isOk u.now }.bring i m
    (.leaving (Gate.verdictOf result))

/-- The permit is given back. -/
def release (u : Crowd σ) (i : Nat) (m : Member) (v : Verdict) : Crowd σ :=
  { u with breaker := { u.breaker with available := u.breaker.available + 1 } }.reply i m v

/-- What an act does. A stream that has not come so far, or does not exist, does nothing. -/
def act (g : Gate σ) (u : Crowd σ) : Act → Crowd σ
  | .wait ms => { u with now := u.now + ms }
  | .attach rule arrivals =>
    { u with
      fleet := u.fleet.step (.attach rule g.settings arrivals)
      members := u.members ++ [⟨arrivals, .idle, []⟩] }
  | .advance i => { u with fleet := u.fleet.step (.advance (u.first + i)) }
  | .come i =>
    match u.members[i]?, u.question? i with
    | some m, some _ => if m.errand.isIdle then u.come i m else u
    | _, _ => u
  | .acquire i =>
    match u.members[i]?, u.question? i with
    | some m, some q =>
      match m.errand with
      | .admitted a => u.acquire g i m a q
      | _ => u
    | _, _ => u
  | .finish i =>
    match u.members[i]? with
    | some m =>
      match m.errand with
      | .running a result => u.finish i m a result
      | _ => u
    | none => u
  | .release i =>
    match u.members[i]? with
    | some m =>
      match m.errand with
      | .leaving v => u.release i m v
      | _ => u
    | none => u

/-- Acts one after the other. -/
def run (g : Gate σ) (u : Crowd σ) (acts : List Act) : Crowd σ := acts.foldl (act g) u

/-- How many checks are in flight: they have come to the breaker, and the stream has no verdict
yet. -/
def inFlight (u : Crowd σ) : Nat := u.members.countP fun m => !m.errand.isIdle

/-! ### What an act can do -/

section Cases

variable (g : Gate σ) (u : Crowd σ) (i : Nat)

theorem act_come_cases : u.act g (.come i) = u ∨ ∃ m q, u.members[i]? = some m ∧
    m.errand = .idle ∧ u.question? i = some q ∧ u.act g (.come i) = u.come i m := by
  simp only [act]
  split
  · next m q hm hq =>
    split
    · next hidle => exact .inr ⟨m, q, hm, Errand.eq_idle hidle, hq, rfl⟩
    · exact .inl rfl
  · exact .inl rfl

theorem act_acquire_cases : u.act g (.acquire i) = u ∨ ∃ m q a, u.members[i]? = some m ∧
    m.errand = .admitted a ∧ u.question? i = some q ∧
      u.act g (.acquire i) = u.acquire g i m a q := by
  simp only [act]
  split
  · next m q hm hq =>
    split
    · next a herrand => exact .inr ⟨m, q, a, hm, herrand, hq, rfl⟩
    · exact .inl rfl
  · exact .inl rfl

theorem act_finish_cases : u.act g (.finish i) = u ∨ ∃ m a result, u.members[i]? = some m ∧
    m.errand = .running a result ∧ u.act g (.finish i) = u.finish i m a result := by
  simp only [act]
  split
  · next m hm =>
    split
    · next a result herrand => exact .inr ⟨m, a, result, hm, herrand, rfl⟩
    · exact .inl rfl
  · exact .inl rfl

theorem act_release_cases : u.act g (.release i) = u ∨ ∃ m v, u.members[i]? = some m ∧
    m.errand = .leaving v ∧ u.act g (.release i) = u.release i m v := by
  simp only [act]
  split
  · next m hm =>
    split
    · next v herrand => exact .inr ⟨m, v, hm, herrand, rfl⟩
    · exact .inl rfl
  · exact .inl rfl

end Cases

/-! ### The functions of the breaker -/

section Breaker

variable {g : Gate σ} {u : Crowd σ} {i : Nat} {m : Member}

theorem act_come (hm : u.members[i]? = some m) (hidle : m.errand = .idle) {q : Question}
    (hq : u.question? i = some q) : u.act g (.come i) = u.come i m := by
  simp [act, hm, hq, hidle, Errand.isIdle]

theorem act_acquire (hm : u.members[i]? = some m) {a : Admission}
    (herrand : m.errand = .admitted a) {q : Question} (hq : u.question? i = some q) :
    u.act g (.acquire i) = u.acquire g i m a q := by
  simp [act, hm, herrand, hq]

theorem act_acquire_of_idle (hm : u.members[i]? = some m) (hidle : m.errand = .idle) :
    u.act g (.acquire i) = u := by
  simp only [act, hm]
  split
  · next m' q hm' hq =>
    obtain rfl := Option.some.inj hm'
    rw [hidle]
  · rfl

theorem act_finish (hm : u.members[i]? = some m) {a : Admission}
    {result : Except (CallError Fault) Verdict} (herrand : m.errand = .running a result) :
    u.act g (.finish i) = u.finish i m a result := by
  simp [act, hm, herrand]

theorem act_release (hm : u.members[i]? = some m) {v : Verdict} (herrand : m.errand = .leaving v) :
    u.act g (.release i) = u.release i m v := by
  simp [act, hm, herrand]

theorem act_finish_of_idle (hm : u.members[i]? = some m) (hidle : m.errand = .idle) :
    u.act g (.finish i) = u := by
  simp [act, hm, hidle]

theorem act_release_of_idle (hm : u.members[i]? = some m) (hidle : m.errand = .idle) :
    u.act g (.release i) = u := by
  simp [act, hm, hidle]

/-- A question that comes and asks for a permit at once has started. -/
theorem start_eq (hm : u.members[i]? = some m) (hidle : m.errand = .idle) {q : Question}
    (hq : u.question? i = some q) :
    (u.act g (.come i)).act g (.acquire i) =
      match u.breaker.start u.now with
      | (b, .refused) => { u with breaker := b }.reply i m (Gate.verdictOf (.error .circuitOpen))
      | (b, .rejected) => { u with breaker := b }.reply i m (Gate.verdictOf (.error .rejected))
      | (b, .running a) =>
        let (work, peers) := g.checker.check g.settings q u.peers
        { u with breaker := b, peers }.bring i { m with shown := m.shown ++ [q] }
          (.running a (work.deadline u.breaker.settings.timeoutMs.toNat).2) := by
  have hi : i < u.members.length := (List.getElem?_eq_some_iff.1 hm).1
  unfold CircuitBreaker.start
  rw [act_come hm hidle hq, come]
  cases henter : u.breaker.machine.enter u.breaker.settings u.now with
  | none =>
    exact act_acquire_of_idle (m := { m with errand := .idle }) (List.getElem?_set_self hi) rfl
  | some x =>
    obtain ⟨machine, a⟩ := x
    dsimp only
    rw [act_acquire (u := Crowd.bring { u with breaker := { u.breaker with machine } } i m
      (.admitted a)) (m := { m with errand := .admitted a }) (List.getElem?_set_self hi) rfl hq]
    by_cases hpermit : u.breaker.available = 0
    · simp [acquire, hpermit, bring, reply, CircuitBreaker.record]
    · simp [acquire, hpermit, bring]

/-- A check whose permit is given back at once has settled. -/
theorem settle_eq (hm : u.members[i]? = some m) {a : Admission}
    {result : Except (CallError Fault) Verdict} (herrand : m.errand = .running a result) :
    (u.act g (.finish i)).act g (.release i) =
      { u with breaker := u.breaker.settle a result.isOk u.now }.reply i m
        (Gate.verdictOf result) := by
  have hi : i < u.members.length := (List.getElem?_eq_some_iff.1 hm).1
  rw [act_finish hm herrand, act_release (u := u.finish i m a result)
    (m := { m with errand := .leaving (Gate.verdictOf result) }) (List.getElem?_set_self hi) rfl]
  simp [release, finish, reply, bring, CircuitBreaker.settle]

/-- A stream that has its verdict already does nothing more. -/
theorem act_rest_of_reply (hm : u.members[i]? = some m) (v : Verdict) :
    let answered := u.reply i m v
    ((answered.act g (.wait 0)).act g (.finish i)).act g (.release i) = answered := by
  intro answered
  have hi : i < u.members.length := (List.getElem?_eq_some_iff.1 hm).1
  have hget : answered.members[i]? = some { m with errand := .idle } := List.getElem?_set_self hi
  rw [show answered.act g (.wait 0) = answered from rfl, act_finish_of_idle hget rfl,
    act_release_of_idle hget rfl]

/-- A check that nothing comes between is the gate's own. -/
theorem check_eq (hm : u.members[i]? = some m) (hidle : m.errand = .idle) {q : Question}
    (hq : u.question? i = some q) (breakers : Breaker.Registry) :
    let called := u.breaker.call u.now (g.checker.check g.settings q u.peers).1
    let answer := g.putThrough u.breaker ⟨u.now, breakers, u.peers⟩ q
    u.run g [.come i, .acquire i, .wait (called.now - u.now), .finish i, .release i] =
      { u with now := called.now, breaker := called.breaker, peers := answer.2.peers }.reply i
        { m with shown := if called.started then m.shown ++ [q] else m.shown } answer.1 := by
  intro called answer
  have hi : i < u.members.length := (List.getElem?_eq_some_iff.1 hm).1
  show ((((u.act g (.come i)).act g (.acquire i)).act g (.wait _)).act g (.finish i)).act g
    (.release i) = _
  rw [start_eq hm hidle hq]
  cases hstart : u.breaker.start u.now with
  | mk b started =>
    cases started with
    | refused | rejected =>
      -- the verdict is there at once, and the other acts find no check
      simp only [called, answer, Gate.putThrough, CircuitBreaker.call, hstart, Nat.sub_self,
        Bool.false_eq_true, if_false]
      exact act_rest_of_reply (u := { u with breaker := b }) hm _
    | running a =>
      have hsettings : b.settings = u.breaker.settings := by
        rw [← u.breaker.settings_start u.now, hstart]
      simp only [called, answer, Gate.putThrough, CircuitBreaker.call, hstart, hsettings,
        Nat.add_sub_cancel_left, if_true]
      refine (settle_eq (m := { m with errand := .running a _, shown := m.shown ++ [q] })
        (List.getElem?_set_self hi) rfl).trans ?_
      simp only [reply, bring, act, List.set_set]

end Breaker

/-! ### Who is attached -/

theorem arrivals_act (g : Gate σ) (u : Crowd σ) (what : Act) :
    (u.act g what).members.map (·.arrivals) =
      u.members.map (·.arrivals) ++ what.arrivals?.toList := by
  have hset : ∀ {i : Nat} {m : Member}, u.members[i]? = some m → ∀ errand shown,
      (u.members.set i { m with errand, shown }).map (·.arrivals) = u.members.map (·.arrivals) :=
    fun hm _ _ => map_set_of_eq hm (·.arrivals) rfl
  cases what with
  | wait ms => simp [act, Act.arrivals?]
  | attach rule arrivals => simp [act, Act.arrivals?]
  | advance i => simp [act, Act.arrivals?]
  | come i =>
    refine Eq.trans ?_ (List.append_nil _).symm
    obtain hstay | ⟨m, q, hm, -, -, hcome⟩ := act_come_cases g u i
    · rw [hstay]
    · rw [hcome]
      unfold come
      split
      · exact hset hm _ _
      · exact hset hm _ _
  | acquire i =>
    refine Eq.trans ?_ (List.append_nil _).symm
    obtain hstay | ⟨m, q, a, hm, -, -, hacquire⟩ := act_acquire_cases g u i
    · rw [hstay]
    · rw [hacquire]
      unfold acquire
      split
      · exact hset hm _ _
      · exact hset hm _ _
  | finish i =>
    refine Eq.trans ?_ (List.append_nil _).symm
    obtain hstay | ⟨m, a, result, hm, -, hfinish⟩ := act_finish_cases g u i
    · rw [hstay]
    · rw [hfinish]
      exact hset hm _ _
  | release i =>
    refine Eq.trans ?_ (List.append_nil _).symm
    obtain hstay | ⟨m, v, hm, -, hrelease⟩ := act_release_cases g u i
    · rw [hstay]
    · rw [hrelease]
      exact hset hm _ _

/-- The streams are those that were attached. -/
theorem arrivals_run (g : Gate σ) (u : Crowd σ) (acts : List Act) :
    (u.run g acts).members.map (·.arrivals) =
      u.members.map (·.arrivals) ++ acts.filterMap Act.arrivals? := by
  induction acts generalizing u with
  | nil => simp [run]
  | cons what acts ih =>
    show ((u.act g what).run g acts).members.map (·.arrivals) = _
    rw [ih, arrivals_act, List.append_assoc]
    cases harrivals : what.arrivals? <;> simp [harrivals]

end Crowd

end ModerationGateway.Moderation
