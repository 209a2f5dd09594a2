import ModerationGateway.Proofs.Breaker.Calm
import ModerationGateway.Proofs.Breaker.Periods
import ModerationGateway.Proofs.Breaker.Shield

/-!
# Vendors that never fail

A vendor is healthy for as long as no call of it fails, takes too long or finds no permit; calls
can be given up, and can overlap in any way. A breaker keeps such a vendor in use, unless a share
of no failures is enough to open it, which the accepted settings allow.

* `NeedsFailures`: settings under which a breaker opens on failures only;
* `Succeeds`: no call of a run is over without success;
* `Serves`, `IsHealthy.step`: the breaker lets every call in, and goes on doing so;
* `run_round`, `opens_rounds`: calls that succeed one after the other, and what they can come to;
* `serves_run`: with accepted settings a healthy vendor is cut off only if the breaker is enabled
  and opens at no failures. Then it is cut off by its own successes.
-/

namespace ModerationGateway.Breaker

open Machine

variable {ε α : Type}

/-- A breaker that can open does not do so without any failure. -/
def NeedsFailures (s : BreakerSettings) : Prop :=
  s.enabled = true → 1 ≤ s.errorThresholdPercentage.toNat

variable {s : BreakerSettings}

/-- A call that succeeds leaves the breaker calm, also if it is one that cannot open. -/
theorem Machine.IsCalm.record_of_needsFailures {m : Machine} (h : m.IsCalm)
    (hs : NeedsFailures s) (now : Nat) : (m.record s .normal true now).IsCalm := by
  by_cases henabled : s.enabled = true
  · exact h.record (hs henabled) now
  · obtain ⟨hcounts, hstate⟩ := record_normal_of_closed h.closed s true now
    have herrors : (m.counted s true now).counts.errors = 0 := (h.roll s now).errors
    exact ⟨by simp [hstate, henabled], hcounts ▸ herrors⟩

/-- A closed machine that has counted so many successes. -/
def Machine.counting (start k : Nat) : Machine := ⟨.closed, ⟨k, 0, start⟩, none, false⟩

theorem Machine.roll_counting (hwindow : 0 < s.rollingWindowMs.toNat) (start k : Nat) :
    (counting start k).roll s start = counting start k := by
  have hwithin : ¬ s.rollingWindowMs.toNat ≤ start - start := by omega
  exact if_neg hwithin

theorem Machine.record_counting (hwindow : 0 < s.rollingWindowMs.toNat) (start k : Nat) :
    (counting start k).record s .normal true start =
      if s.enabled && shouldTrip s ⟨k + 1, 0, start⟩ then (counting start (k + 1)).trip start
      else counting start (k + 1) := by
  have hcounted : (counting start k).counted s true start = counting start (k + 1) := by
    unfold counted
    rw [roll_counting hwindow]
    rfl
  rw [record_normal, if_pos (show (counting start k).state = .closed from rfl), hcounted]
  rfl

/-- The settings that a breaker can work with leave it a permit and a window. -/
theorem BreakerSettings.pos_of_check (h : s.check = .ok ()) :
    0 < s.permits ∧ 0 < s.rollingWindowMs.toNat := by
  unfold BreakerSettings.check at h
  split at h
  · contradiction
  split at h
  · contradiction
  split at h
  · contradiction
  · have hmax : 0 < BreakerSettings.maxPermits := by decide
    unfold BreakerSettings.permits
    omega

namespace Service

variable {u : Service} {turn : Turn ε α} {turns : List (Turn ε α)}

/-! ### Runs without failures -/

/-- A call that is over at a turn has succeeded. -/
def SucceedsAt (u : Service) (turn : Turn ε α) : Prop := (u.ending? turn).all (·.success) = true

/-- Every call that is over in a run has succeeded. -/
def Succeeds (u : Service) (turns : List (Turn ε α)) : Prop := Along SucceedsAt u turns

theorem succeeds_append {more : List (Turn ε α)} :
    Succeeds u (turns ++ more) ↔ Succeeds u turns ∧ Succeeds (u.run turns) more := by
  induction turns generalizing u with
  | nil => exact ⟨fun h => ⟨trivial, h⟩, fun h => h.2⟩
  | cons turn turns ih =>
    have hlater : Succeeds (u.step turn) (turns ++ more) ↔ _ := ih
    exact (and_congr_right fun _ => hlater).trans and_assoc.symm

/-- The breaker is closed and has always been so, and nobody is refused: a call that comes now is
let in as one of many, and a call that is alone now does not find it open. -/
structure Serves (ε α : Type) (u : Service) : Prop where
  closed : u.machine.state = .closed
  exits : u.exits = 0
  callers : (u.step (.come : Turn ε α)).callers = u.callers ++ [⟨.normal, .admitted, 0⟩]
  result : ∀ w : Work ε α, (u.breaker.call u.now w).result ≠ .error .circuitOpen

/-- No failure is counted, and all calls were let in while the breaker was closed. -/
structure IsHealthy (s : BreakerSettings) (u : Service) : Prop where
  settings : u.settings = s
  calm : u.machine.IsCalm
  normal : ∀ c ∈ u.callers, c.admission = .normal
  exits : u.exits = 0

theorem isHealthy_fresh (name : String) (s : BreakerSettings) (start : Nat) :
    IsHealthy s (fresh name s start) :=
  ⟨rfl, isCalm_fresh start, fun _ hc => absurd hc List.not_mem_nil, rfl⟩

/-- What happens to a healthy breaker, but for a failure, leaves it healthy. -/
theorem IsHealthy.step (hs : NeedsFailures s) (h : IsHealthy s u) (hturn : SucceedsAt u turn) :
    IsHealthy s (u.step turn) := by
  have hcalm : (u.act turn).machine.IsCalm := by
    cases u.visit turn with
    | ended e _ hending hget hadmission _ hmachine =>
      have hnormal : e.admission = .normal :=
        hadmission ▸ h.normal _ (List.mem_of_getElem? hget)
      have hsuccess : e.success = true := by simpa [SucceedsAt, hending] using hturn
      rw [hmachine, hnormal, hsuccess, h.settings]
      exact h.calm.record_of_needsFailures hs u.now
    | admitted m a _ henter _ hmachine =>
      rw [h.calm.enter] at henter
      obtain ⟨rfl, -⟩ := Prod.mk.inj (Option.some.inj henter)
      rw [hmachine]
      exact h.calm.roll u.settings u.now
    | abandoned i c _ _ hget _ hmachine =>
      rw [hmachine, h.normal c (List.mem_of_getElem? hget)]
      exact h.calm
    | nothing _ _ _ hmachine => exact hmachine ▸ h.calm
  refine ⟨(settings_step u turn).trans h.settings, hcalm, ?_, ?_⟩
  · intro c hc
    rcases mem_callers_act hc with ⟨c', hc', hadmission, -⟩ | ⟨-, henter⟩
    · exact hadmission ▸ h.normal c' hc'
    · rw [h.calm.enter] at henter
      exact (Prod.mk.inj (Option.some.inj henter)).2.symm
  · rw [exits_step, if_neg fun hexit => hexit.2 hcalm.closed]
    exact h.exits

/-- A healthy breaker refuses nobody. -/
theorem IsHealthy.serves (h : IsHealthy s u) : Serves ε α u := by
  have henter := h.calm.enter u.settings u.now
  refine ⟨h.calm.closed, h.exits, ?_, fun w => ?_⟩
  · rw [callers_step, act_come henter, h.exits]
  · have hstart : u.breaker.machine.enter u.breaker.settings u.now =
        some (u.machine.roll u.settings u.now, .normal) := henter
    unfold CircuitBreaker.call CircuitBreaker.start
    rw [hstart]
    by_cases hpermit : u.breaker.available = 0
    · simp [hpermit]
    · simp only [hpermit, if_false]
      unfold Work.deadline
      split
      · split
        · cases w.outcome <;> simp [Except.mapError]
        · simp
      · simp

/-! ### Calls one after the other -/

/-- A call that is alone and succeeds at once. -/
def round (a : α) : List (Turn ε α) := [.come, .acquire 0, .finish 0 (.ok a), .release]

/-- Such calls, one after the other. -/
def rounds (a : α) : Nat → List (Turn ε α)
  | 0 => []
  | k + 1 => rounds a k ++ round a

/-- A breaker that nobody uses and that has counted so many successes. -/
def counting (name : String) (s : BreakerSettings) (start k : Nat) : Service :=
  ⟨start, ⟨name, s, .counting start k, s.permits⟩, [], 0, 0⟩

/-- The breaker while one call is running. -/
def occupied (name : String) (s : BreakerSettings) (start k : Nat) : Service :=
  ⟨start, ⟨name, s, .counting start k, s.permits - 1⟩, [⟨.normal, .running, 0⟩], 0, 0⟩

section

variable (hpermits : 0 < s.permits) (hwindow : 0 < s.rollingWindowMs.toNat) (name : String)
  (start k : Nat) (a : α)
include hwindow

theorem step_come_counting : (counting name s start k).step (.come : Turn ε α) =
    { counting name s start k with callers := [⟨.normal, .admitted, 0⟩] } := by
  have henter : (counting name s start k).machine.enter s start =
      some (.counting start k, .normal) :=
    congrArg (fun m => some (m, Admission.normal)) (Machine.roll_counting hwindow start k)
  unfold Service.step
  rw [act_come henter]
  rfl

include hpermits

theorem step_acquire_counting :
    ((counting name s start k).step (.come : Turn ε α)).step (.acquire 0 : Turn ε α) =
      occupied name s start k := by
  have hpermits' : s.permits ≠ 0 := by omega
  rw [step_come_counting hwindow, Service.step,
    act_acquire (c := ⟨.normal, .admitted, 0⟩) rfl hpermits']
  rfl

/-- A call that is alone and succeeds tells the machine so, and nothing else of it is left. -/
theorem run_round : (counting name s start k).run (round a : List (Turn ε α)) =
    if s.enabled && shouldTrip s ⟨k + 1, 0, start⟩ then
      ⟨start, ⟨name, s, (Machine.counting start (k + 1)).trip start, s.permits⟩, [], 0, 1⟩
    else counting name s start (k + 1) := by
  have hback : s.permits - 1 + 1 = s.permits := by omega
  have hfinish : (occupied name s start k).act (.finish 0 (.ok a) : Turn ε α) =
      ⟨start, ⟨name, s, (Machine.counting start k).record s .normal true start, s.permits - 1⟩, [],
        1, 0⟩ :=
    act_finish (c := ⟨.normal, .running, 0⟩) rfl _
  show ((((counting name s start k).step (.come : Turn ε α)).step (.acquire 0 : Turn ε α)).step
    (.finish 0 (.ok a) : Turn ε α)).step (.release : Turn ε α) = _
  rw [step_acquire_counting hpermits hwindow, Service.step, Service.step, hfinish,
    Machine.record_counting hwindow]
  by_cases htrip : (s.enabled && shouldTrip s ⟨k + 1, 0, start⟩) = true
  · rw [if_pos htrip, if_pos htrip]
    simp [act, machine, setAvailable, occupied, Machine.counting, hback]
  · rw [if_neg htrip, if_neg htrip]
    simp [act, machine, setAvailable, occupied, counting, Machine.counting, hback]

theorem succeeds_round : Succeeds (counting name s start k) (round a : List (Turn ε α)) := by
  have hpermits' : s.permits ≠ 0 := by omega
  refine ⟨rfl, ?_, ?_, rfl, trivial⟩
  · rw [step_come_counting hwindow]
    simp [SucceedsAt, ending?, counting, hpermits']
  · rw [step_acquire_counting hpermits hwindow]
    rfl

theorem run_rounds (hfew : ∀ j ≤ k, shouldTrip s ⟨j, 0, start⟩ = false) :
    (fresh name s start).run (rounds a k : List (Turn ε α)) = counting name s start k ∧
      Succeeds (fresh name s start) (rounds a k : List (Turn ε α)) := by
  induction k with
  | zero => exact ⟨rfl, trivial⟩
  | succ k ih =>
    obtain ⟨hrun, hsucceeds⟩ := ih fun j hj => hfew j (by omega)
    constructor
    · rw [rounds, run_append, hrun, run_round hpermits hwindow, hfew (k + 1) (Nat.le_refl _)]
      simp
    · rw [rounds, succeeds_append, hrun]
      exact ⟨hsucceeds, succeeds_round hpermits hwindow name start k a⟩

end

/-- If a share of no failures is enough, the success that makes the calls enough opens the
breaker. -/
theorem opens_rounds (hpermits : 0 < s.permits) (hwindow : 0 < s.rollingWindowMs.toNat)
    (hs : ¬ NeedsFailures s) (name : String) (start : Nat) (a : α) :
    let turns : List (Turn ε α) := rounds a (max 1 s.requestVolumeThreshold.toNat)
    Succeeds (fresh name s start) turns ∧
      ((fresh name s start).run turns).machine.state = .opened := by
  intro turns
  obtain ⟨henabled, hzero⟩ := Classical.not_imp.1 hs
  have hzero : s.errorThresholdPercentage.toNat = 0 := by omega
  obtain ⟨k, hk⟩ : ∃ k, max 1 s.requestVolumeThreshold.toNat = k + 1 :=
    ⟨max 1 s.requestVolumeThreshold.toNat - 1, by omega⟩
  have hfew : ∀ j ≤ k, shouldTrip s ⟨j, 0, start⟩ = false := by
    intro j hj
    have hvolume : ¬ (0 < j ∧ s.requestVolumeThreshold.toNat ≤ j) := by omega
    simpa [shouldTrip, hzero] using hvolume
  have henough : shouldTrip s ⟨k + 1, 0, start⟩ = true := by
    have hvolume : s.requestVolumeThreshold.toNat ≤ k + 1 := by omega
    simpa [shouldTrip, hzero] using hvolume
  obtain ⟨hrun, hsucceeds⟩ := run_rounds (ε := ε) hpermits hwindow name start k a hfew
  have hturns : turns = rounds a k ++ round a := congrArg (rounds a) hk
  rw [hturns]
  constructor
  · rw [succeeds_append, hrun]
    exact ⟨hsucceeds, succeeds_round hpermits hwindow name start k a⟩
  · rw [run_append, hrun, run_round hpermits hwindow, henabled, henough]
    rfl

/-- With accepted settings a breaker cuts off a healthy vendor only if it is enabled and a share of
no failures is enough to open it. In all other cases it is closed and refuses nobody, at every
moment of every run in which no call has failed, taken too long or found no permit. In that case
its vendor is cut off by successes alone, as soon as there are enough. -/
theorem serves_run (hcheck : s.check = .ok ()) (name : String) (start : Nat) :
    (NeedsFailures s → ∀ turns : List (Turn ε α), Succeeds (fresh name s start) turns →
        Serves ε α ((fresh name s start).run turns)) ∧
      (¬ NeedsFailures s → ∀ a : α,
        let turns : List (Turn ε α) := rounds a (max 1 s.requestVolumeThreshold.toNat)
        Succeeds (fresh name s start) turns ∧
          ((fresh name s start).run turns).machine.state = .opened) := by
  constructor
  · intro hs turns hturns
    have hhealthy : IsHealthy s ((fresh name s start).run turns) :=
      run_of_along (fun _ _ h hturn => h.step hs hturn) (isHealthy_fresh name s start) hturns
    exact hhealthy.serves
  · intro hs a
    obtain ⟨hpermits, hwindow⟩ := BreakerSettings.pos_of_check hcheck
    exact opens_rounds hpermits hwindow hs name start a

/-- Two calls run. The first is given up, which the machine is told much later, and the second
succeeds. -/
def givenUpOnce : List (Turn Unit Unit) :=
  [.come, .acquire 0, .come, .acquire 1, .drop 0, .wait 20000, .abandon 0, .finish 0 (.ok ()),
    .release]

/-- A breaker that opens at two calls, whatever came of them. -/
def touchy : BreakerSettings :=
  { BreakerSettings.standard with requestVolumeThreshold := 2, errorThresholdPercentage := 0 }

/-- A call that was given up cuts nobody off, and with a threshold of zero two successes do. -/
theorem serves_run_givenUpOnce :
    Succeeds (fresh "b" .standard 0) givenUpOnce ∧
      Serves Unit Unit ((fresh "b" .standard 0).run givenUpOnce) ∧
      touchy.check = .ok () ∧
      ((fresh "b" touchy 0).run (rounds () 2 : List (Turn Unit Unit))).machine.state = .opened := by
  have hneeds : NeedsFailures .standard := fun _ => by decide
  have hnot : ¬ NeedsFailures touchy := fun h => absurd (h rfl) (by decide)
  have hsucceeds : Succeeds (fresh "b" .standard 0) givenUpOnce :=
    ⟨rfl, rfl, rfl, rfl, rfl, rfl, rfl, rfl, rfl, trivial⟩
  exact ⟨hsucceeds, (serves_run rfl "b" 0).1 hneeds givenUpOnce hsucceeds, rfl,
    ((serves_run (ε := Unit) rfl "b" 0).2 hnot ()).2⟩

/-- So it is not the case that whatever the accepted settings are, a breaker without failures stays
closed. -/
theorem opens_without_failures :
    ¬ ∀ (name : String) (s : BreakerSettings) (start : Nat) (turns : List (Turn Unit Unit)),
      s.check = .ok () → Succeeds (fresh name s start) turns →
        Serves Unit Unit ((fresh name s start).run turns) := by
  intro h
  have hserves := h "b" touchy 0 (rounds () 2) rfl
    ⟨rfl, rfl, rfl, rfl, rfl, rfl, rfl, rfl, trivial⟩
  exact absurd hserves.closed (by decide)

end Service

end ModerationGateway.Breaker
