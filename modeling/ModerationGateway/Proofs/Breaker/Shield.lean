import ModerationGateway.Proofs.Breaker.Service

/-!
# An open circuit shields the vendor

From the moment at which a breaker opens every call is refused until the sleep window is over. The
first call after that is the trial, and until the trial is over every other call is refused. What
calls from before the breaker opened come to in the meantime makes no difference.

* `Along`: a condition on the turns of a run, each in the state in which it is taken;
* `EndsTrial`, `machine_step_of_ne_closed`: while no trial is over and nobody is let in, a breaker
  that is not closed stays as it is;
* `IsOpenSince`, `isOpenSince_step`: a breaker opens now, whatever opens it;
* `IsOpenSince.run`, `IsTrying.run`: it stays open while no call comes late, and half open while
  the trial lasts;
* `Refuses`, `Tries`, `Shields`: a call is refused, a call is the trial, and both in their order;
* `shields_run`: a breaker that opens shields from then on, and every trial that fails opens it.
-/

namespace ModerationGateway.Breaker

open Machine

variable {ε α : Type}

/-- Whatever makes a breaker open, it is open from now on. -/
theorem Machine.openedAt_record {m : Machine} {s : BreakerSettings} {a : Admission}
    {success : Bool} {now : Nat} (hbefore : m.state ≠ .opened)
    (hafter : (m.record s a success now).state = .opened) :
    (m.record s a success now).openedAt = some now := by
  cases a with
  | trial =>
    rw [record_trial] at hafter ⊢
    cases success with
    | true => contradiction
    | false => rfl
  | normal =>
    rw [record_normal] at hafter ⊢
    split at hafter
    next hclosed =>
      split at hafter
      next htrip =>
        rw [if_pos hclosed, if_pos htrip]
        rfl
      next =>
        -- it only counts, and is closed as before
        have hcounted : m.state = .opened := hafter
        exact absurd hcounted hbefore
    next => exact absurd hafter hbefore

namespace Service

variable {s : BreakerSettings} {u : Service} {turn : Turn ε α} {turns : List (Turn ε α)}

/-! ### Turns along a run -/

/-- Every turn of a run satisfies a condition in the state in which it is taken. -/
def Along (P : Service → Turn ε α → Prop) (u : Service) : List (Turn ε α) → Prop
  | [] => True
  | turn :: turns => P u turn ∧ Along P (u.step turn) turns

/-- What every turn under a condition keeps holds along every run under it. -/
theorem run_of_along {P : Service → Turn ε α → Prop} {Inv : Service → Prop}
    (hstep : ∀ (u : Service) (turn : Turn ε α), Inv u → P u turn → Inv (u.step turn))
    (h : Inv u) (hturns : Along P u turns) : Inv (u.run turns) := by
  induction turns generalizing u with
  | nil => exact h
  | cons turn turns ih =>
    obtain ⟨hturn, hlater⟩ := hturns
    exact ih (hstep u turn h hturn) hlater

theorem now_le_run (u : Service) (turns : List (Turn ε α)) : u.now ≤ (u.run turns).now := by
  have hstep : ∀ (v : Service) (turn : Turn ε α), u.now ≤ v.now → u.now ≤ (v.step turn).now :=
    fun v turn h => Nat.le_trans h (v.now_le_act turn)
  exact run_induction hstep (Nat.le_refl u.now) turns

/-- Calls come before a given time only. -/
def ComesBefore (time : Nat) (u : Service) (turns : List (Turn ε α)) : Prop :=
  Along (fun v turn => turn = .come → v.now < time) u turns

theorem comesBefore_of_now_lt {time : Nat} (h : (u.run turns).now < time) :
    ComesBefore time u turns := by
  induction turns generalizing u with
  | nil => trivial
  | cons turn turns ih =>
    refine ⟨fun _ => ?_, ih h⟩
    exact Nat.lt_of_le_of_lt (u.now_le_run (turn :: turns)) h

/-- The call at whose giving up the machine is told at a turn. -/
def givenUp? (u : Service) : Turn ε α → Option Caller
  | .abandon i => u.caller? i .dropped
  | _ => none

/-- At a turn the trial is over: it settles, or it was given up and the machine is told. -/
def EndsTrial (u : Service) (turn : Turn ε α) : Prop :=
  (∃ e, u.ending? turn = some e ∧ e.admission = .trial) ∨
    ∃ c, u.givenUp? turn = some c ∧ c.admission = .trial

/-- The trial is not over at any turn of a run. -/
def TrialLasts (u : Service) (turns : List (Turn ε α)) : Prop :=
  Along (fun v turn => ¬ v.EndsTrial turn) u turns

/-- A turn at which no call comes, is over or is given up does not concern the machine. -/
theorem machine_act_of_quiet (hending : u.ending? turn = none) (hgiven : u.givenUp? turn = none)
    (hcome : turn ≠ .come) : (u.act turn).machine = u.machine := by
  cases turn with
  | wait ms => rfl
  | come => contradiction
  | acquire i =>
    cases hc : u.caller? i .admitted with
    | none => simp [act, hc]
    | some c =>
      have hpermit : u.breaker.available ≠ 0 := by simpa [ending?, hc] using hending
      rw [act_acquire hc hpermit]
      rfl
  | finish i result =>
    have hc : u.caller? i .running = none := by simpa [ending?] using hending
    simp [act, hc]
  | release =>
    simp only [act]
    split <;> rfl
  | drop i =>
    cases hc : u.caller? i .running with
    | none => simp [act, hc]
    | some c =>
      rw [act_drop hc]
      rfl
  | abandon i => simp [act, show u.caller? i .dropped = none from hgiven]

/-- While no trial is over and nobody is let in, a breaker that is not closed stays as it is. What
calls from an earlier time come to is ignored. -/
theorem machine_step_of_ne_closed (hstate : u.machine.state ≠ .closed)
    (hlasts : ¬ u.EndsTrial turn)
    (hcome : turn = .come → u.machine.enter u.settings u.now = none) :
    (u.step turn).machine = u.machine := by
  rw [machine_step]
  cases hending : u.ending? turn with
  | some e =>
    obtain ⟨-, hmachine⟩ := machine_of_ending hending
    cases ha : e.admission with
    | trial => exact absurd (.inl ⟨e, hending, ha⟩) hlasts
    | normal =>
      rw [hmachine, ha]
      exact record_normal_of_ne_closed hstate u.settings e.success u.now
  | none =>
    cases hgiven : u.givenUp? turn with
    | some c =>
      cases ha : c.admission with
      | trial => exact absurd (.inr ⟨c, hgiven, ha⟩) hlasts
      | normal =>
        cases turn with
        | abandon i =>
          rw [act_abandon (show u.caller? i .dropped = some c from hgiven), ha]
          rfl
        | _ => contradiction
    | none =>
      by_cases hturn : turn = .come
      · subst hturn
        rw [act_come_of_none (hcome rfl)]
      · exact machine_act_of_quiet hending hgiven hturn

/-! ### Open -/

/-- A sound breaker that has been open since a given time. -/
structure IsOpenSince (s : BreakerSettings) (time : Nat) (u : Service) : Prop where
  sound : IsSound s u
  state : u.machine.state = .opened
  openedAt : u.machine.openedAt = some time
  le_now : time ≤ u.now

/-- A breaker that a turn opens is open from now on. -/
theorem isOpenSince_step (h : IsSound s u) (hbefore : u.machine.state ≠ .opened)
    (hafter : (u.step turn).machine.state = .opened) :
    (u.step turn).now = u.now ∧ IsOpenSince s u.now (u.step turn) := by
  have hopened : (u.step turn).machine.openedAt = some u.now ∧ (u.step turn).now = u.now := by
    rw [machine_step] at hafter ⊢
    rw [now_step]
    cases u.visit turn with
    | ended e c _ _ _ hnow hmachine _ =>
      rw [hmachine] at hafter ⊢
      exact ⟨openedAt_record hbefore hafter, hnow⟩
    | admitted m a _ henter _ hmachine _ =>
      -- nobody is let in by a breaker that opens
      rw [hmachine] at hafter
      rcases enter_cases henter with ⟨hstate, rfl, -⟩ | ⟨-, -, rfl, -⟩ | ⟨hstate, -, rfl, -⟩
      · rw [state_roll, hstate] at hafter
        contradiction
      · contradiction
      · have hhalf : u.machine.state = .opened := hafter
        exact absurd hhalf hbefore
    | abandoned i c _ _ _ _ hmachine _ =>
      rw [hmachine] at hafter
      cases ha : c.admission <;> rw [ha] at hafter <;> exact absurd hafter hbefore
    | nothing _ _ _ hmachine _ =>
      rw [hmachine] at hafter
      exact absurd hafter hbefore
  obtain ⟨hopenedAt, hnow⟩ := hopened
  exact ⟨hnow, h.step turn, hafter, hopenedAt, Nat.le_of_eq hnow.symm⟩

namespace IsOpenSince

variable {time : Nat}

/-- No trial is live while a breaker is open. -/
theorem not_endsTrial (h : IsOpenSince s time u) (turn : Turn ε α) : ¬ u.EndsTrial turn := by
  have hnone : ∀ (i : Nat) (c : Caller), u.callers[i]? = some c → c.admission ≠ .trial := by
    intro i c hget hc
    have hhalf := h.sound.state_of_trial hget hc
    rw [h.state] at hhalf
    contradiction
  rintro (⟨e, hending, he⟩ | ⟨c, hgiven, hc⟩)
  · obtain ⟨⟨c, hget, hadmission⟩, -⟩ := machine_of_ending hending
    exact hnone e.place c hget (hadmission.trans he)
  · cases turn with
    | abandon i => exact hnone i c (caller?_eq_some.1 hgiven).1 hc
    | _ => contradiction

/-- Before the sleep window is over nobody is let in. -/
theorem enter_eq_none (h : IsOpenSince s time u) (hnow : u.now < time + s.sleepWindowMs.toNat) :
    u.machine.enter u.settings u.now = none := by
  have hasleep : ¬ s.sleepWindowMs.toNat ≤ u.now - time := by
    have hle := h.le_now
    omega
  simp [enter, h.state, hasSlept, h.openedAt, h.sound.settings, hasleep]

/-- After it the next call is let in as the trial. -/
theorem enter_eq_some (h : IsOpenSince s time u) (hnow : time + s.sleepWindowMs.toNat ≤ u.now) :
    u.machine.enter u.settings u.now =
      some ({ u.machine with state := .halfOpen, trialInFlight := true }, .trial) := by
  have hslept : s.sleepWindowMs.toNat ≤ u.now - time := by omega
  simp [enter, h.state, hasSlept, h.openedAt, h.sound.settings, hslept]

theorem step (h : IsOpenSince s time u) (turn : Turn ε α)
    (hturn : turn = .come → u.now < time + s.sleepWindowMs.toNat) :
    IsOpenSince s time (u.step turn) := by
  have hmachine : (u.step turn).machine = u.machine :=
    machine_step_of_ne_closed (by simp [h.state]) (h.not_endsTrial turn)
      fun hcome => h.enter_eq_none (hturn hcome)
  constructor
  · exact h.sound.step turn
  · rw [hmachine]
    exact h.state
  · rw [hmachine]
    exact h.openedAt
  · exact Nat.le_trans h.le_now (u.now_le_act turn)

/-- While no call comes late, the breaker stays open. -/
theorem run (h : IsOpenSince s time u)
    (hturns : ComesBefore (time + s.sleepWindowMs.toNat) u turns) :
    IsOpenSince s time (u.run turns) :=
  run_of_along (fun _ turn hopen hturn => hopen.step turn hturn) h hturns

end IsOpenSince

/-! ### Half open -/

/-- A sound breaker that waits for its trial. -/
structure IsTrying (s : BreakerSettings) (u : Service) : Prop where
  sound : IsSound s u
  state : u.machine.state = .halfOpen
  trialInFlight : u.machine.trialInFlight = true

namespace IsTrying

theorem enter_eq_none (h : IsTrying s u) : u.machine.enter u.settings u.now = none := by
  simp [enter, h.state, h.trialInFlight]

theorem step (h : IsTrying s u) (turn : Turn ε α) (hturn : ¬ u.EndsTrial turn) :
    IsTrying s (u.step turn) := by
  have hmachine : (u.step turn).machine = u.machine :=
    machine_step_of_ne_closed (by simp [h.state]) hturn fun _ => h.enter_eq_none
  constructor
  · exact h.sound.step turn
  · rw [hmachine]
    exact h.state
  · rw [hmachine]
    exact h.trialInFlight

/-- While the trial lasts, the breaker stays half open. -/
theorem run (h : IsTrying s u) (hturns : TrialLasts u turns) : IsTrying s (u.run turns) :=
  run_of_along (fun _ turn htrying hturn => htrying.step turn hturn) h hturns

end IsTrying

/-! ### The shield -/

/-- A call that comes now is refused: nothing whatever changes, and its work is not started. -/
structure Refuses (ε α : Type) (u : Service) : Prop where
  unchanged : u.step (.come : Turn ε α) = u
  result : ∀ w : Work ε α, u.breaker.call u.now w = ⟨u.breaker, u.now, .error .circuitOpen, false⟩

/-- A call that comes now is let in, as the trial of a half-open breaker. -/
structure Tries (ε α : Type) (u : Service) : Prop where
  machine : (u.step (.come : Turn ε α)).machine =
    { u.machine with state := .halfOpen, trialInFlight := true }
  callers : (u.step (.come : Turn ε α)).callers = u.callers ++ [⟨.trial, .admitted, u.exits⟩]

theorem refuses_of_enter_eq_none (h : u.machine.enter u.settings u.now = none) :
    Refuses ε α u := by
  constructor
  · have hact := act_come_of_none (ε := ε) (α := α) h
    have hexits : ¬ (u.machine.state = .closed ∧ u.machine.state ≠ .closed) := fun ⟨hc, hn⟩ => hn hc
    rw [Service.step, hact, if_neg hexits]
  · intro w
    simp only [CircuitBreaker.call, CircuitBreaker.start_refused h]

/-- What a breaker does from now on, when it has just opened. -/
structure Shields (ε α : Type) (s : BreakerSettings) (u : Service) : Prop where
  /-- It is open from now on. -/
  opened : IsOpenSince s u.now u
  /-- Until the sleep window is over it stays so, and every call is refused. -/
  refuses : ∀ turns : List (Turn ε α), (u.run turns).now < u.now + s.sleepWindowMs.toNat →
    IsOpenSince s u.now (u.run turns) ∧ Refuses ε α (u.run turns)
  /-- The first call that comes later is the trial. -/
  tries : ∀ turns : List (Turn ε α), ComesBefore (u.now + s.sleepWindowMs.toNat) u turns →
    u.now + s.sleepWindowMs.toNat ≤ (u.run turns).now → Tries ε α (u.run turns)
  /-- From then on every call is refused until the trial is over. -/
  refuses_until : ∀ turns : List (Turn ε α),
    ComesBefore (u.now + s.sleepWindowMs.toNat) u turns →
    u.now + s.sleepWindowMs.toNat ≤ (u.run turns).now → ∀ later : List (Turn ε α),
      TrialLasts ((u.run turns).step (.come : Turn ε α)) later →
        Refuses ε α (((u.run turns).step (.come : Turn ε α)).run later)

/-- The first call after the sleep window makes the breaker half open. -/
theorem IsOpenSince.come {time : Nat} (h : IsOpenSince s time u)
    (hnow : time + s.sleepWindowMs.toNat ≤ u.now) :
    Tries ε α u ∧ IsTrying s (u.step (.come : Turn ε α)) := by
  have hact := act_come (ε := ε) (α := α) (h.enter_eq_some hnow)
  have hmachine : (u.step (.come : Turn ε α)).machine =
      { u.machine with state := .halfOpen, trialInFlight := true } := by
    rw [machine_step, hact]
    rfl
  have hcallers : (u.step (.come : Turn ε α)).callers =
      u.callers ++ [⟨.trial, .admitted, u.exits⟩] := by
    rw [callers_step, hact]
  exact ⟨⟨hmachine, hcallers⟩, h.sound.step .come, by rw [hmachine], by rw [hmachine]⟩

theorem IsOpenSince.shields (h : IsOpenSince s u.now u) : Shields ε α s u := by
  constructor
  · exact h
  · intro turns hnow
    have hopen := h.run (comesBefore_of_now_lt hnow)
    exact ⟨hopen, refuses_of_enter_eq_none (hopen.enter_eq_none hnow)⟩
  · intro turns hturns hnow
    exact ((h.run hturns).come hnow).1
  · intro turns hturns hnow later hlater
    have htrying := ((h.run hturns).come (ε := ε) (α := α) hnow).2.run hlater
    exact refuses_of_enter_eq_none htrying.enter_eq_none

/-- A breaker that a turn opens shields from then on. -/
theorem shields_step (h : IsSound s u) (hbefore : u.machine.state ≠ .opened)
    (hafter : (u.step turn).machine.state = .opened) : Shields ε α s (u.step turn) := by
  obtain ⟨hnow, hopen⟩ := isOpenSince_step h hbefore hafter
  rw [← hnow] at hopen
  exact hopen.shields

/-- A trial that is over without success opens the breaker. -/
theorem shields_of_trial (h : IsSound s u) {e : Ending} (hending : u.ending? turn = some e)
    (htrial : e.admission = .trial) (hfailed : e.success = false) :
    Shields ε α s (u.step turn) := by
  obtain ⟨⟨c, hget, hadmission⟩, hmachine⟩ := machine_of_ending hending
  have hhalf := h.state_of_trial hget (hadmission.trans htrial)
  apply shields_step h (by simp [hhalf])
  rw [machine_step, hmachine, htrial, hfailed]
  rfl

/-- At every moment of every run: a breaker that a turn opens shields from then on. A trial opens
it if its work fails or takes too long, and if there is no permit for it; so it shields for the
whole sleep window again. -/
theorem shields_run (name : String) (s : BreakerSettings) (start : Nat)
    (turns : List (Turn ε α)) :
    let u := (fresh name s start).run turns
    (∀ turn : Turn ε α, u.machine.state ≠ .opened → (u.step turn).machine.state = .opened →
        Shields ε α s (u.step turn)) ∧
      ∀ i c, c.admission = .trial →
        (u.caller? i .running = some c → ∀ error : CallError ε,
          Shields ε α s (u.step (.finish i (.error error) : Turn ε α))) ∧
        (u.caller? i .admitted = some c → u.breaker.available = 0 →
          Shields ε α s (u.step (.acquire i : Turn ε α))) := by
  intro u
  have hsound : IsSound s u := isSound_run name s start turns
  refine ⟨fun turn hbefore hafter => shields_step hsound hbefore hafter, fun i c htrial => ⟨?_, ?_⟩⟩
  · intro hc error
    have hending : u.ending? (.finish i (.error error) : Turn ε α) =
        some ⟨i, c.admission, false⟩ := by
      simp [ending?, hc, Except.isOk, Except.toBool]
    exact shields_of_trial hsound hending htrial rfl
  · intro hc hpermit
    have hending : u.ending? (.acquire i : Turn ε α) = some ⟨i, c.admission, false⟩ := by
      simp [ending?, hc, hpermit]
    exact shields_of_trial hsound hending htrial rfl

/-- A breaker that opens at the first failure and lets one call run at a time. -/
def narrow : BreakerSettings :=
  { BreakerSettings.standard with requestVolumeThreshold := 1, maxConcurrent := 1 }

/-- A call runs, and a second one finds no permit, which opens the breaker. When it has slept the
first call is still running, and a third one comes as the trial. -/
def crowded : List (Turn Unit Unit) := [.come, .acquire 0, .come, .acquire 1, .wait 15000, .come]

/-- The trial finds no permit either, so that the breaker sleeps from then on: the last moment at
which a call is refused is a whole window later, and the call after it is the next trial. -/
theorem shields_run_crowded :
    let u := (fresh "b" narrow 0).run crowded
    let v := u.step (.acquire 1 : Turn Unit Unit)
    u.machine.state ≠ .opened ∧ v.machine.state = .opened ∧ v.now = 15000 ∧
      u.caller? 1 .admitted = some ⟨.trial, .admitted, 1⟩ ∧ u.breaker.available = 0 ∧
      Shields Unit Unit narrow v ∧ Refuses Unit Unit (v.run [(.wait 14999 : Turn Unit Unit)]) ∧
      Tries Unit Unit (v.run [(.wait 15000 : Turn Unit Unit)]) := by
  intro u v
  have hbefore : u.machine.state ≠ .opened := by decide
  have hafter : v.machine.state = .opened := by decide
  have hc : u.caller? 1 .admitted = some ⟨.trial, .admitted, 1⟩ := by decide
  have hpermit : u.breaker.available = 0 := by decide
  obtain ⟨-, hfailed⟩ := shields_run (ε := Unit) (α := Unit) "b" narrow 0 crowded
  have hshields : Shields Unit Unit narrow v := (hfailed 1 _ rfl).2 hc hpermit
  have hwait : ComesBefore (v.now + narrow.sleepWindowMs.toNat) v
      [(.wait 15000 : Turn Unit Unit)] :=
    ⟨fun h => by contradiction, trivial⟩
  exact ⟨hbefore, hafter, by decide, hc, hpermit, hshields,
    (hshields.refuses [.wait 14999] (by decide)).2, hshields.tries [.wait 15000] hwait (by decide)⟩

end Service

end ModerationGateway.Breaker
