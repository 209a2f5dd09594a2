import ModerationGateway.Proofs.Breaker.Service

/-!
# Permits

A permit is free, or a call has it: one whose work runs, or one that is over and has yet to give
its permit back. What a caller does in one go leaves no call of the second kind behind, and then
the permits that are not free are those of the calls whose work runs.

* `countP_eraseIdx`, `countP_set_add`: what one element counts for;
* `Service.working`: how many calls have work that runs;
* `Service.supply_act`: no turn changes how many permits there are;
* `Service.Rations`: what the permits are for, at every moment of a run;
* `Poll`, `Service.poll`, `Service.pollAll`: what is done in one go, and a run of it;
* `Service.IsSettled`: every call that was let in has work that runs;
* `Service.Shares`, `Service.permits_run`: what the permits are for, between two polls, and the
  whole.
-/

namespace ModerationGateway

/-! ### Counting -/

section Counting

variable {α : Type} {l : List α} {i : Nat} {a : α}

/-- One element goes. -/
theorem countP_eraseIdx (h : l[i]? = some a) (p : α → Bool) :
    (l.eraseIdx i).countP p + (if p a then 1 else 0) = l.countP p := by
  obtain ⟨hi, rfl⟩ := List.getElem?_eq_some_iff.1 h
  rw [← (List.getElem_cons_eraseIdx_perm hi).countP_eq, List.countP_cons]

/-- One element comes in the place of another. -/
theorem countP_set_add (h : l[i]? = some a) (p : α → Bool) (b : α) :
    (l.set i b).countP p + (if p a then 1 else 0) = l.countP p + if p b then 1 else 0 := by
  obtain ⟨hi, rfl⟩ := List.getElem?_eq_some_iff.1 h
  have hle := List.boole_getElem_le_countP (p := p) hi
  rw [List.countP_set hi]
  omega

end Counting

end ModerationGateway

namespace ModerationGateway.Breaker

open Machine

variable {ε α : Type}

/-- Noticing twice that a window is over is noticing it once. -/
theorem Machine.roll_roll (m : Machine) (s : BreakerSettings) (now : Nat) :
    (m.roll s now).roll s now = m.roll s now := by
  by_cases hover : s.rollingWindowMs.toNat ≤ now - m.counts.since
  · have hroll : m.roll s now = { m with counts := .fresh now } := if_pos hover
    rw [hroll]
    unfold roll
    split <;> rfl
  · have hroll : m.roll s now = m := if_neg hover
    rw [hroll, hroll]

/-- A failure that a closed breaker records is one request more and one error more. -/
theorem Machine.counts_record_failure {m : Machine} (hclosed : m.state = .closed)
    (s : BreakerSettings) (now : Nat) :
    (m.record s .normal false now).counts.requests = (m.roll s now).counts.requests + 1 ∧
      (m.record s .normal false now).counts.errors = (m.roll s now).counts.errors + 1 := by
  obtain ⟨hcounts, -⟩ := record_normal_of_closed hclosed s false now
  rw [hcounts]
  exact ⟨rfl, rfl⟩

/-- The work of the call runs. -/
def Caller.isRunning (c : Caller) : Bool := c.phase = .running

theorem Caller.isRunning_iff {c : Caller} : c.isRunning = true ↔ c.phase = .running := by
  simp [isRunning]

namespace CircuitBreaker

variable {b : CircuitBreaker} {now : Nat} {m : Machine} {a : Admission}

/-- A call that is let in is rejected if there is no permit, and only then. -/
theorem start_eq_rejected_iff (h : b.machine.enter b.settings now = some (m, a)) :
    (b.start now).2 = .rejected ↔ b.available = 0 := by
  unfold start
  rw [h]
  by_cases hpermit : b.available = 0
  · simp [hpermit]
  · simp [hpermit]

/-- A call that a closed breaker rejects is one request more and one error more. -/
theorem counts_start_of_rejected (hclosed : b.machine.state = .closed)
    (hpermit : b.available = 0) (now : Nat) :
    (b.start now).1.machine.counts.requests =
        (b.machine.roll b.settings now).counts.requests + 1 ∧
      (b.start now).1.machine.counts.errors =
        (b.machine.roll b.settings now).counts.errors + 1 := by
  have henter : b.machine.enter b.settings now =
      some (b.machine.roll b.settings now, .normal) := by
    simp [enter, hclosed]
  have hstart : (b.start now).1.machine =
      (b.machine.roll b.settings now).record b.settings .normal false now := by
    unfold start
    rw [henter]
    simp [hpermit, record]
  have hcounts := counts_record_failure (m := b.machine.roll b.settings now)
    (by rw [state_roll]; exact hclosed) b.settings now
  rw [roll_roll] at hcounts
  rw [hstart]
  exact hcounts

end CircuitBreaker

namespace Service

variable {s : BreakerSettings} {u : Service} {i : Nat} {c : Caller}

/-! ### Calls that come and go -/

/-- How many calls have work that runs. -/
def working (u : Service) : Nat := u.callers.countP Caller.isRunning

/-- The permits that are free, those of calls whose work runs, and those of calls that are over. -/
def supply (u : Service) : Nat := u.breaker.available + (u.working + u.leaving)

/-- No turn changes how many permits there are. -/
theorem supply_act (u : Service) (turn : Turn ε α) : (u.act turn).supply = u.supply := by
  unfold supply
  cases turn with
  | wait ms => rfl
  | come =>
    cases henter : u.machine.enter u.settings u.now with
    | none => rw [act_come_of_none henter]
    | some x =>
      obtain ⟨m, a⟩ := x
      rw [act_come henter]
      simp [working, setMachine, Caller.isRunning]
  | acquire i =>
    cases hc : u.caller? i .admitted with
    | none => simp [act, hc]
    | some c =>
      obtain ⟨hget, hphase⟩ := caller?_eq_some.1 hc
      by_cases hpermit : u.breaker.available = 0
      · have hcount := countP_eraseIdx hget Caller.isRunning
        simp only [Caller.isRunning_iff, hphase] at hcount
        rw [act_acquire_of_none hc hpermit]
        simpa [working, ended, setMachine] using hcount
      · have hcount := countP_set_add hget Caller.isRunning { c with phase := .running }
        simp only [Caller.isRunning_iff, hphase, reduceCtorEq, if_false, if_true,
          Nat.add_zero] at hcount
        rw [act_acquire hc hpermit]
        simp only [working, setAvailable, hcount]
        omega
  | finish i result =>
    cases hc : u.caller? i .running with
    | none => simp [act, hc]
    | some c =>
      obtain ⟨hget, hphase⟩ := caller?_eq_some.1 hc
      have hcount := countP_eraseIdx hget Caller.isRunning
      simp only [Caller.isRunning_iff, hphase, if_true] at hcount
      rw [act_finish hc]
      simp only [working, ended, setMachine, ← hcount]
      omega
  | release =>
    by_cases hleaving : u.leaving = 0
    · simp [act, hleaving]
    · simp only [act, hleaving, if_false, working, setAvailable]
      omega
  | drop i =>
    cases hc : u.caller? i .running with
    | none => simp [act, hc]
    | some c =>
      obtain ⟨hget, hphase⟩ := caller?_eq_some.1 hc
      have hcount := countP_set_add hget Caller.isRunning { c with phase := .dropped }
      simp only [Caller.isRunning_iff, hphase, reduceCtorEq, if_false, if_true,
        Nat.add_zero] at hcount
      rw [act_drop hc]
      simp only [working, setAvailable, ← hcount]
      omega
  | abandon i =>
    cases hc : u.caller? i .dropped with
    | none => simp [act, hc]
    | some c =>
      obtain ⟨hget, hphase⟩ := caller?_eq_some.1 hc
      have hcount := countP_eraseIdx hget Caller.isRunning
      simp only [Caller.isRunning_iff, hphase] at hcount
      rw [act_abandon hc]
      simpa [working, setMachine] using hcount

/-- What the permits are for: a permit is free, or its call has work that runs, or its call is over
and has yet to give it back. -/
structure Rations (ε α : Type) (s : BreakerSettings) (u : Service) : Prop where
  total : u.breaker.available + (u.working + u.leaving) = s.permits
  working_le : u.working ≤ s.permits
  /-- A call that was let in is over at once if all permits are out, and only then. -/
  rejected_iff : ∀ i c, u.caller? i .admitted = some c →
    (u.ending? (.acquire i : Turn ε α) = some ⟨i, c.admission, false⟩ ↔
      u.working + u.leaving = s.permits)
  /-- While the breaker is closed, this is one request and one error. -/
  counts : ∀ i c, u.caller? i .admitted = some c → c.admission = .normal →
    u.machine.state = .closed → u.working + u.leaving = s.permits →
      (u.step (.acquire i : Turn ε α)).machine.counts.requests =
          (u.machine.roll s u.now).counts.requests + 1 ∧
        (u.step (.acquire i : Turn ε α)).machine.counts.errors =
          (u.machine.roll s u.now).counts.errors + 1

theorem rations_of_supply (hsettings : u.settings = s) (hsupply : u.supply = s.permits) :
    Rations ε α s u := by
  have htotal : u.breaker.available + (u.working + u.leaving) = s.permits := hsupply
  have hout : u.breaker.available = 0 ↔ u.working + u.leaving = s.permits := by omega
  constructor
  · exact htotal
  · omega
  · intro i c hc
    rw [← hout]
    by_cases hpermit : u.breaker.available = 0
    · simp [ending?, hc, hpermit]
    · simp [ending?, hpermit]
  · intro i c hc hnormal hclosed hall
    rw [machine_step, act_acquire_of_none hc (hout.2 hall), hnormal]
    have hcounts := counts_record_failure hclosed s u.now
    rw [← hsettings] at hcounts ⊢
    exact hcounts

theorem supply_run (u : Service) (turns : List (Turn ε α)) : (u.run turns).supply = u.supply := by
  induction turns generalizing u with
  | nil => rfl
  | cons turn turns ih => exact (ih (u.step turn)).trans (u.supply_act turn)

theorem rations_run (name : String) (s : BreakerSettings) (start : Nat)
    (turns : List (Turn ε α)) : Rations ε α s ((fresh name s start).run turns) :=
  rations_of_supply (isSound_run name s start turns).settings (supply_run _ turns)

/-! ### What is done in one go -/

/-- A call that is let in is not over. -/
theorem leaving_come (u : Service) : (u.act (.come : Turn ε α)).leaving = u.leaving := by
  simp only [act]
  split <;> rfl

/-- A call that is rejected has no permit to give back. -/
theorem leaving_acquire (u : Service) (i : Nat) :
    (u.act (.acquire i : Turn ε α)).leaving = u.leaving := by
  simp only [act]
  split
  · rfl
  · split <;> rfl

/-- What a caller does in one go, with nobody else between: it comes and asks for a permit, its
work is over and it gives the permit back, or it is given up. Or else time goes by. -/
inductive Poll (ε α : Type) where
  | wait (ms : Nat)
  | start
  | finish (i : Nat) (result : Except (CallError ε) α)
  | cancel (i : Nat)

/-- The turns of a poll. -/
def Poll.turns (u : Service) : Poll ε α → List (Turn ε α)
  | .wait ms => [.wait ms]
  | .start => [.come, .acquire u.callers.length]
  | .finish i result => [.finish i result, .release]
  | .cancel i => [.drop i, .abandon i]

/-- What a poll does: the breaker's own `start`, `settle` or `cancel`. -/
def poll (u : Service) (p : Poll ε α) : Service := (p.turns u).foldl act u

theorem poll_start (u : Service) : u.poll (.start : Poll ε α) =
    (u.act (.come : Turn ε α)).act (.acquire u.callers.length : Turn ε α) := rfl

theorem poll_finish (u : Service) (i : Nat) (result : Except (CallError ε) α) :
    u.poll (.finish i result) = (u.act (.finish i result)).act (.release : Turn ε α) := rfl

theorem poll_cancel (u : Service) (i : Nat) : u.poll (.cancel i : Poll ε α) =
    (u.act (.drop i : Turn ε α)).act (.abandon i : Turn ε α) := rfl

/-- Polls one after the other. -/
def pollAll (u : Service) (polls : List (Poll ε α)) : Service := polls.foldl poll u

/-- What every turn keeps, a poll keeps. -/
theorem poll_induction {Inv : Service → Prop}
    (hact : ∀ (u : Service) (turn : Turn ε α), Inv u → Inv (u.act turn)) {u : Service}
    (h : Inv u) (p : Poll ε α) : Inv (u.poll p) := by
  unfold poll
  induction p.turns u generalizing u with
  | nil => exact h
  | cons turn turns ih => exact ih (hact u turn h)

theorem settings_poll (u : Service) (p : Poll ε α) : (u.poll p).settings = u.settings := by
  have hact : ∀ (v : Service) (turn : Turn ε α),
      v.settings = u.settings → (v.act turn).settings = u.settings :=
    fun v turn hv => (settings_act v turn).trans hv
  exact poll_induction hact rfl p

theorem supply_poll (u : Service) (p : Poll ε α) : (u.poll p).supply = u.supply := by
  have hact : ∀ (v : Service) (turn : Turn ε α),
      v.supply = u.supply → (v.act turn).supply = u.supply :=
    fun v turn hv => (v.supply_act turn).trans hv
  exact poll_induction hact rfl p

/-- Every call that was let in has work that runs, and none that is over has a permit. -/
structure IsSettled (u : Service) : Prop where
  running : ∀ c ∈ u.callers, c.phase = .running
  leaving : u.leaving = 0

namespace IsSettled

theorem working_eq (h : IsSettled u) : u.working = u.callers.length :=
  List.countP_eq_length.2 fun c hc => by simp [Caller.isRunning, h.running c hc]

theorem caller?_dropped (h : IsSettled u) (i : Nat) : u.caller? i .dropped = none := by
  cases hc : u.caller? i .dropped with
  | none => rfl
  | some c =>
    obtain ⟨hget, hphase⟩ := caller?_eq_some.1 hc
    rw [h.running c (List.mem_of_getElem? hget)] at hphase
    contradiction

/-- A call that goes leaves the others with their work. -/
theorem of_eraseIdx (h : IsSettled u) {u' : Service} (hcallers : u'.callers = u.callers.eraseIdx i)
    (hleaving : u'.leaving = u.leaving) : IsSettled u' :=
  ⟨fun c hc => h.running c (List.mem_of_mem_eraseIdx (hcallers ▸ hc)), hleaving.trans h.leaving⟩

theorem start (h : IsSettled u) : IsSettled (u.poll (.start : Poll ε α)) := by
  obtain ⟨-, hcallers⟩ := start_eq (ε := ε) (α := α) u
  have hleaving : (u.poll (.start : Poll ε α)).leaving = u.leaving :=
    (leaving_acquire (ε := ε) (α := α) _ _).trans (leaving_come (ε := ε) (α := α) u)
  refine ⟨fun c hc => ?_, hleaving.trans h.leaving⟩
  rw [poll_start, hcallers, List.mem_append, List.mem_map] at hc
  rcases hc with hc | ⟨a, -, rfl⟩
  · exact h.running c hc
  · rfl

theorem finish (h : IsSettled u) (i : Nat) (result : Except (CallError ε) α) :
    IsSettled (u.poll (.finish i result)) := by
  rw [poll_finish]
  cases hc : u.caller? i .running with
  | none =>
    have hnothing : (u.act (.finish i result)).act (.release : Turn ε α) = u := by
      simp [act, hc, h.leaving]
    rw [hnothing]
    exact h
  | some c =>
    rw [act_finish hc]
    exact h.of_eraseIdx (i := i) rfl rfl

theorem cancel (h : IsSettled u) (i : Nat) : IsSettled (u.poll (.cancel i : Poll ε α)) := by
  rw [poll_cancel]
  cases hc : u.caller? i .running with
  | none =>
    have hnothing : (u.act (.drop i : Turn ε α)).act (.abandon i : Turn ε α) = u := by
      simp [act, hc, h.caller?_dropped]
    rw [hnothing]
    exact h
  | some c =>
    have hi : i < u.callers.length := (List.getElem?_eq_some_iff.1 (caller?_eq_some.1 hc).1).1
    have hdropped : (u.act (.drop i : Turn ε α)).caller? i .dropped =
        some { c with phase := .dropped } := by
      rw [caller?_eq_some, act_drop hc]
      simp [hi]
    refine h.of_eraseIdx (i := i) ?_ ?_
    · rw [act_abandon hdropped, act_drop hc]
      exact List.eraseIdx_set_eq
    · rw [act_abandon hdropped, act_drop hc]
      rfl

theorem poll (h : IsSettled u) (p : Poll ε α) : IsSettled (u.poll p) := by
  cases p with
  | wait ms => exact ⟨h.running, h.leaving⟩
  | start => exact h.start
  | finish i result => exact h.finish i result
  | cancel i => exact h.cancel i

end IsSettled

/-- What the permits are for between two polls: a permit is free, or its call has work that runs. -/
structure Shares (s : BreakerSettings) (u : Service) : Prop where
  total : u.breaker.available + u.working = s.permits
  working_le : u.working ≤ s.permits
  /-- The calls whose work runs are all calls that were let in and are not over. -/
  working_eq : u.working = u.callers.length
  /-- A call that is let in is rejected if so many calls run, and only then. -/
  rejected_iff : ∀ m a, u.machine.enter u.settings u.now = some (m, a) →
    ((u.breaker.start u.now).2 = .rejected ↔ u.working = s.permits)
  /-- While the breaker is closed, this is one request and one error. -/
  counts : u.machine.state = .closed → u.working = s.permits →
    (u.breaker.start u.now).2 = .rejected ∧
      (u.breaker.start u.now).1.machine.counts.requests =
        (u.machine.roll s u.now).counts.requests + 1 ∧
      (u.breaker.start u.now).1.machine.counts.errors =
        (u.machine.roll s u.now).counts.errors + 1

theorem shares_of_isSettled (h : IsSettled u) (hsettings : u.settings = s)
    (hsupply : u.supply = s.permits) : Shares s u := by
  have htotal : u.breaker.available + u.working = s.permits := by
    rw [← hsupply, supply, h.leaving, Nat.add_zero]
  have hout : u.breaker.available = 0 ↔ u.working = s.permits := by omega
  constructor
  · exact htotal
  · omega
  · exact h.working_eq
  · intro m a henter
    exact (CircuitBreaker.start_eq_rejected_iff henter).trans hout
  · intro hclosed hall
    have hpermit := hout.2 hall
    have henter : u.machine.enter u.settings u.now =
        some (u.machine.roll u.settings u.now, .normal) := by
      simp [enter, hclosed]
    have hcounts := CircuitBreaker.counts_start_of_rejected hclosed hpermit u.now
    rw [← hsettings]
    exact ⟨(CircuitBreaker.start_eq_rejected_iff henter).2 hpermit, hcounts⟩

theorem shares_pollAll (name : String) (s : BreakerSettings) (start : Nat)
    (polls : List (Poll ε α)) : Shares s ((fresh name s start).pollAll polls) := by
  have hkept : ∀ u : Service, IsSettled u → u.settings = s → u.supply = s.permits →
      Shares s (u.pollAll polls) := by
    induction polls with
    | nil => exact fun u => shares_of_isSettled
    | cons p polls ih =>
      exact fun u hsettled hsettings hsupply => ih (u.poll p) (hsettled.poll p)
        ((settings_poll u p).trans hsettings) ((supply_poll u p).trans hsupply)
  exact hkept _ ⟨fun c hc => absurd hc List.not_mem_nil, rfl⟩ rfl rfl

/-- At every moment of every run of a breaker, a permit is free, or its call has work that runs, or
its call is over and has yet to give it back; the last is never so between two polls. So no more
calls run at once than there are permits, a call that is let in is rejected if and only if as many
run as there are, and a call that a closed breaker rejects counts as one request and one error. -/
theorem permits_run (name : String) (s : BreakerSettings) (start : Nat) :
    (∀ turns : List (Turn ε α), Rations ε α s ((fresh name s start).run turns)) ∧
      ∀ polls : List (Poll ε α), Shares s ((fresh name s start).pollAll polls) :=
  ⟨rations_run name s start, shares_pollAll name s start⟩

/-- A breaker that lets one call run at a time. -/
def single : BreakerSettings := { BreakerSettings.standard with maxConcurrent := 1 }

/-- While a call runs, and also when it is over and still has the permit, another call that was let
in is rejected, which is the first error of the window. -/
theorem permits_run_single :
    let u := (fresh "b" single 0).run [(.come : Turn Unit Unit), .acquire 0, .come]
    let v := (fresh "b" single 0).pollAll [(.start : Poll Unit Unit)]
    u.breaker.available = 0 ∧ u.working = 1 ∧
      u.ending? (.acquire 1 : Turn Unit Unit) = some ⟨1, .normal, false⟩ ∧
      (u.step (.acquire 1 : Turn Unit Unit)).machine.counts.errors = 1 ∧
      v.working = 1 ∧ (v.breaker.start v.now).2 = .rejected ∧
      (v.breaker.start v.now).1.machine.counts.requests = 1 := by
  intro u v
  obtain ⟨hturns, hpolls⟩ := permits_run (ε := Unit) (α := Unit) "b" single 0
  have hu : Rations Unit Unit single u := hturns _
  have hv : Shares single v := hpolls _
  have hc : u.caller? 1 .admitted = some ⟨.normal, .admitted, 0⟩ := by decide
  have hout : u.working + u.leaving = single.permits := by decide
  have hclosed : u.machine.state = .closed := by decide
  have hworking : v.working = single.permits := by decide
  obtain ⟨hrejected, hrequests, -⟩ := hv.counts (by decide) hworking
  exact ⟨by decide, by decide, (hu.rejected_iff 1 _ hc).2 hout,
    (hu.counts 1 _ hc rfl hclosed hout).2, by decide, hrejected, hrequests⟩

end Service

end ModerationGateway.Breaker
