import ModerationGateway.Proofs.Breaker.Timeline

/-!
# A circuit breaker in service

Any number of calls use a breaker at once. On its way a call visits the machine and the permits: it
comes, asks for a permit, is over, and gives the permit back; or it is given up, which gives the
permit back and then tells the machine. Every visit is a turn of its own, and between two visits of
one call the other calls and the clock can do anything.

* `Caller`, `Service`: a call that was let in, and the breaker with all of them;
* `Turn`, `Service.act`, `Service.step`, `Service.run`: what happens next, and a run from a state;
* `Service.ending?`: the call that is over at a turn, and whether it succeeded;
* `start_eq`, `settle_eq`, `cancel_eq`, `IsServed`: visits that nothing comes between are the
  breaker's own `start`, `settle` and `cancel`;
* `Service.Visit`, `Service.visit`: all that a turn has to do with the machine;
* `Service.reaches_run`, `Service.isSound_run`: what holds along every history of the machine holds
  in service;
* `Service.run_isSound`: every history of the machine, every run in service and every timeline leave
  a breaker sound and not blocked.
-/

namespace ModerationGateway.Breaker

variable {ε α : Type}

/-- How far a call has come that was let in. -/
inductive Phase where
  /-- It has not asked for a permit. -/
  | admitted
  /-- Its work runs. -/
  | running
  /-- It was given up and has no permit any more, and the machine has not been told. -/
  | dropped
  deriving DecidableEq, Repr

/-- A call that was let in: how, when, and how far it has come. -/
structure Caller where
  admission : Admission
  phase : Phase
  /-- How often the breaker had left the closed state when the call was let in. -/
  since : Nat
  deriving DecidableEq, Repr

/-- A breaker in service. -/
structure Service where
  now : Nat
  breaker : CircuitBreaker
  /-- The calls that were let in, in the order in which they came. -/
  callers : List Caller
  /-- How many calls are over and have not given their permits back. -/
  leaving : Nat
  /-- How often the breaker has left the closed state. -/
  exits : Nat
  deriving DecidableEq, Repr

/-- What can happen: time goes by, a call comes, a call asks for a permit, the work of a call is
over with a result, a call that is over gives its permit back, a call is given up, and the machine
is told of it. -/
inductive Turn (ε α : Type) where
  | wait (ms : Nat)
  | come
  | acquire (i : Nat)
  | finish (i : Nat) (result : Except (CallError ε) α)
  | release
  | drop (i : Nat)
  | abandon (i : Nat)

/-- A call that is over: its place among the callers, how it was let in, and whether it
succeeded. -/
structure Ending where
  place : Nat
  admission : Admission
  success : Bool
  deriving DecidableEq, Repr

namespace Service

/-- A breaker that nobody has called. -/
def fresh (name : String) (s : BreakerSettings) (start : Nat) : Service :=
  ⟨start, .fresh name s start, [], 0, 0⟩

/-- The machine of the breaker. -/
def machine (u : Service) : Machine := u.breaker.machine

/-- The settings of the breaker. -/
def settings (u : Service) : BreakerSettings := u.breaker.settings

/-- The call at a place, if it has come as far as a given phase. -/
def caller? (u : Service) (i : Nat) (phase : Phase) : Option Caller :=
  u.callers[i]?.filter fun c => c.phase = phase

/-- The breaker with another machine. -/
def setMachine (u : Service) (m : Machine) : Service :=
  { u with breaker := { u.breaker with machine := m } }

/-- The breaker with another number of free permits. -/
def setAvailable (u : Service) (n : Nat) : Service :=
  { u with breaker := { u.breaker with available := n } }

/-- A call is over: the machine is told, and the call goes. -/
def ended (u : Service) (i : Nat) (a : Admission) (success : Bool) : Service :=
  { u.setMachine (u.machine.record u.settings a success u.now) with
    callers := u.callers.eraseIdx i }

/-- What a turn does. A call that has not come so far, or does not exist, does nothing. -/
def act (u : Service) : Turn ε α → Service
  | .wait ms => { u with now := u.now + ms }
  | .come =>
    match u.machine.enter u.settings u.now with
    | none => u
    | some (m, a) =>
      { u.setMachine m with callers := u.callers ++ [⟨a, .admitted, u.exits⟩] }
  | .acquire i =>
    match u.caller? i .admitted with
    | none => u
    | some c =>
      if u.breaker.available = 0 then u.ended i c.admission false
      else
        { u.setAvailable (u.breaker.available - 1) with
          callers := u.callers.set i { c with phase := .running } }
  | .finish i result =>
    match u.caller? i .running with
    | none => u
    | some c => { u.ended i c.admission result.isOk with leaving := u.leaving + 1 }
  | .release =>
    if u.leaving = 0 then u
    else { u.setAvailable (u.breaker.available + 1) with leaving := u.leaving - 1 }
  | .drop i =>
    match u.caller? i .running with
    | none => u
    | some c =>
      { u.setAvailable (u.breaker.available + 1) with
        callers := u.callers.set i { c with phase := .dropped } }
  | .abandon i =>
    match u.caller? i .dropped with
    | none => u
    | some c =>
      { u.setMachine (u.machine.abandon c.admission) with callers := u.callers.eraseIdx i }

/-- A turn, with the count of how often the breaker has left the closed state. -/
def step (u : Service) (turn : Turn ε α) : Service :=
  { u.act turn with
    exits :=
      if u.machine.state = .closed ∧ (u.act turn).machine.state ≠ .closed then u.exits + 1
      else u.exits }

/-- Turns one after the other. -/
def run (u : Service) (turns : List (Turn ε α)) : Service := turns.foldl step u

theorem run_append (u : Service) (turns more : List (Turn ε α)) :
    u.run (turns ++ more) = (u.run turns).run more :=
  List.foldl_append

/-- What every turn keeps holds along every run. -/
theorem run_induction {Inv : Service → Prop}
    (hstep : ∀ (u : Service) (turn : Turn ε α), Inv u → Inv (u.step turn)) {u : Service}
    (h : Inv u) (turns : List (Turn ε α)) : Inv (u.run turns) := by
  induction turns generalizing u with
  | nil => exact h
  | cons turn turns ih => exact ih (hstep u turn h)

/-- The call that is over at a turn. A call that finds no permit is over with a failure, and so is
one whose work fails or takes too long. -/
def ending? (u : Service) : Turn ε α → Option Ending
  | .acquire i =>
    if u.breaker.available = 0 then (u.caller? i .admitted).map (⟨i, ·.admission, false⟩) else none
  | .finish i result => (u.caller? i .running).map (⟨i, ·.admission, result.isOk⟩)
  | _ => none

variable {u : Service} {i : Nat} {c : Caller}

theorem caller?_eq_some {phase : Phase} :
    u.caller? i phase = some c ↔ u.callers[i]? = some c ∧ c.phase = phase := by
  simp [caller?, Option.filter_eq_some_iff]

theorem act_come_of_none (henter : u.machine.enter u.settings u.now = none) :
    u.act (.come : Turn ε α) = u := by
  unfold act
  rw [henter]

theorem act_come {m : Machine} {a : Admission}
    (henter : u.machine.enter u.settings u.now = some (m, a)) :
    u.act (.come : Turn ε α) =
      { u.setMachine m with callers := u.callers ++ [⟨a, .admitted, u.exits⟩] } := by
  unfold act
  rw [henter]

/-- A call that finds no permit is over with a failure. -/
theorem act_acquire_of_none (hc : u.caller? i .admitted = some c)
    (hpermit : u.breaker.available = 0) :
    u.act (.acquire i : Turn ε α) = u.ended i c.admission false := by
  simp [act, hc, hpermit]

theorem act_acquire (hc : u.caller? i .admitted = some c) (hpermit : u.breaker.available ≠ 0) :
    u.act (.acquire i : Turn ε α) =
      { u.setAvailable (u.breaker.available - 1) with
        callers := u.callers.set i { c with phase := .running } } := by
  simp [act, hc, hpermit]

theorem act_finish (hc : u.caller? i .running = some c) (result : Except (CallError ε) α) :
    u.act (.finish i result) =
      { u.ended i c.admission result.isOk with leaving := u.leaving + 1 } := by
  simp [act, hc]

theorem act_drop (hc : u.caller? i .running = some c) :
    u.act (.drop i : Turn ε α) =
      { u.setAvailable (u.breaker.available + 1) with
        callers := u.callers.set i { c with phase := .dropped } } := by
  simp [act, hc]

theorem act_abandon (hc : u.caller? i .dropped = some c) :
    u.act (.abandon i : Turn ε α) =
      { u.setMachine (u.machine.abandon c.admission) with callers := u.callers.eraseIdx i } := by
  simp [act, hc]

/-! ### The functions of the breaker -/

/-- A call that comes and asks for a permit at once has started. -/
theorem start_eq (u : Service) :
    let after := (u.act (.come : Turn ε α)).act (.acquire u.callers.length : Turn ε α)
    after.breaker = (u.breaker.start u.now).1 ∧
      after.callers =
        u.callers ++ (u.breaker.start u.now).2.live.map (⟨·, .running, u.exits⟩) := by
  intro after
  cases henter : u.machine.enter u.settings u.now with
  | none =>
    have hafter : after = u := by
      show (u.act .come).act (.acquire u.callers.length) = u
      rw [act_come_of_none henter]
      simp [act, caller?]
    rw [hafter, CircuitBreaker.start_refused henter]
    simp [Start.live]
  | some x =>
    obtain ⟨m, a⟩ := x
    have hcome := act_come (ε := ε) (α := α) henter
    have hc : (u.act (.come : Turn ε α)).caller? u.callers.length .admitted =
        some ⟨a, .admitted, u.exits⟩ := by
      rw [caller?_eq_some, hcome]
      simp
    have hstart : u.breaker.machine.enter u.breaker.settings u.now = some (m, a) := henter
    unfold CircuitBreaker.start
    rw [hstart]
    by_cases hpermit : u.breaker.available = 0
    · have hafter : after = (u.act (.come : Turn ε α)).ended u.callers.length a false :=
        act_acquire_of_none hc (by rw [hcome]; exact hpermit)
      rw [hafter, hcome]
      simp [ended, setMachine, machine, settings, hpermit, CircuitBreaker.record, Start.live,
        List.eraseIdx_append_of_length_le]
    · have hafter := act_acquire (ε := ε) (α := α) hc (by rw [hcome]; exact hpermit)
      show after.breaker = _ ∧ after.callers = _
      rw [show after = _ from hafter, hcome]
      simp [setMachine, setAvailable, hpermit, Start.live]

/-- A call that is over and gives its permit back at once has settled. -/
theorem settle_eq (hc : u.caller? i .running = some c) (result : Except (CallError ε) α) :
    ((u.act (.finish i result)).act (.release : Turn ε α)).breaker =
      u.breaker.settle c.admission result.isOk u.now := by
  rw [act_finish hc]
  rfl

/-- A call that is given up, and whose machine is told at once, is cancelled. -/
theorem cancel_eq (hc : u.caller? i .running = some c) :
    ((u.act (.drop i : Turn ε α)).act (.abandon i : Turn ε α)).breaker =
      u.breaker.cancel c.admission := by
  obtain ⟨hget, -⟩ := caller?_eq_some.1 hc
  have hi : i < u.callers.length := (List.getElem?_eq_some_iff.1 hget).1
  have hdropped : (u.act (.drop i : Turn ε α)).caller? i .dropped =
      some { c with phase := .dropped } := by
    rw [caller?_eq_some, act_drop hc]
    simp [hi]
  rw [act_abandon hdropped, act_drop hc]
  rfl

/-- A breaker in service does what its own functions do, when nothing comes between the visits of a
call. -/
structure IsServed (ε α : Type) (u : Service) : Prop where
  start : let after := (u.act (.come : Turn ε α)).act (.acquire u.callers.length : Turn ε α)
    after.breaker = (u.breaker.start u.now).1 ∧
      after.callers = u.callers ++ (u.breaker.start u.now).2.live.map (⟨·, .running, u.exits⟩)
  settle : ∀ (i : Nat) (c : Caller) (result : Except (CallError ε) α),
    u.caller? i .running = some c →
      ((u.act (.finish i result)).act (.release : Turn ε α)).breaker =
        u.breaker.settle c.admission result.isOk u.now
  cancel : ∀ (i : Nat) (c : Caller), u.caller? i .running = some c →
    ((u.act (.drop i : Turn ε α)).act (.abandon i : Turn ε α)).breaker =
      u.breaker.cancel c.admission

theorem isServed (u : Service) : IsServed ε α u where
  start := u.start_eq
  settle _ _ result hc := settle_eq hc result
  cancel _ _ hc := cancel_eq hc

/-! ### What a turn has to do with the machine -/

/-- All that a turn has to do with the machine: a call is over, is let in or is given up, or
nothing changes but the time and how far the calls have come. -/
inductive Visit (u : Service) (turn : Turn ε α) : Prop where
  | ended (e : Ending) (c : Caller)
      (hending : u.ending? turn = some e)
      (hget : u.callers[e.place]? = some c)
      (hadmission : c.admission = e.admission)
      (hnow : (u.act turn).now = u.now)
      (hmachine : (u.act turn).machine =
        u.machine.record u.settings e.admission e.success u.now)
      (hcallers : (u.act turn).callers = u.callers.eraseIdx e.place)
  | admitted (m : Machine) (a : Admission)
      (hcome : turn = .come)
      (henter : u.machine.enter u.settings u.now = some (m, a))
      (hnow : (u.act turn).now = u.now)
      (hmachine : (u.act turn).machine = m)
      (hcallers : (u.act turn).callers = u.callers ++ [⟨a, .admitted, u.exits⟩])
  | abandoned (i : Nat) (c : Caller)
      (hending : u.ending? turn = none)
      (hcome : turn ≠ .come)
      (hget : u.callers[i]? = some c)
      (hnow : (u.act turn).now = u.now)
      (hmachine : (u.act turn).machine = u.machine.abandon c.admission)
      (hcallers : (u.act turn).callers = u.callers.eraseIdx i)
  | nothing
      (hending : u.ending? turn = none)
      (hcome : turn = .come → u.machine.enter u.settings u.now = none)
      (hnow : u.now ≤ (u.act turn).now)
      (hmachine : (u.act turn).machine = u.machine)
      (hcallers : (u.act turn).callers.map (fun c => (c.admission, c.since)) =
        u.callers.map fun c => (c.admission, c.since))

/-- A turn on a call that has not come so far does nothing. -/
theorem visit_of_act_eq {turn : Turn ε α} (hending : u.ending? turn = none)
    (hcome : turn = .come → u.machine.enter u.settings u.now = none) (hact : u.act turn = u) :
    Visit u turn := by
  apply Visit.nothing hending hcome
  · exact Nat.le_of_eq (congrArg now hact).symm
  · rw [hact]
  · rw [hact]

/-- How far a call has come does not matter for how and when it was let in. -/
theorem map_set_phase {callers : List Caller} (h : callers[i]? = some c) (phase : Phase) :
    (callers.set i { c with phase := phase }).map (fun c => (c.admission, c.since)) =
      callers.map fun c => (c.admission, c.since) := by
  obtain ⟨hi, rfl⟩ := List.getElem?_eq_some_iff.1 h
  apply List.ext_getElem
  · simp
  · intro j hj _
    by_cases hij : i = j
    · subst hij
      simp
    · simp [List.getElem_set_ne hij]

/-- There is nothing else that a turn can do. -/
theorem visit (u : Service) (turn : Turn ε α) : Visit u turn := by
  cases turn with
  | wait ms => exact .nothing rfl (by simp) (Nat.le_add_right u.now ms) rfl rfl
  | come =>
    cases henter : u.machine.enter u.settings u.now with
    | none => exact visit_of_act_eq rfl (fun _ => henter) (act_come_of_none henter)
    | some x =>
      obtain ⟨m, a⟩ := x
      have hact := act_come (ε := ε) (α := α) henter
      exact .admitted m a rfl henter (by rw [hact]; rfl) (by rw [hact]; rfl) (by rw [hact])
  | acquire i =>
    cases hc : u.caller? i .admitted with
    | none => exact visit_of_act_eq (by simp [ending?, hc]) (by simp) (by simp [act, hc])
    | some c =>
      obtain ⟨hget, -⟩ := caller?_eq_some.1 hc
      by_cases hpermit : u.breaker.available = 0
      · have hact := act_acquire_of_none (ε := ε) (α := α) hc hpermit
        have hending : u.ending? (.acquire i : Turn ε α) = some ⟨i, c.admission, false⟩ := by
          simp [ending?, hpermit, hc]
        exact .ended _ c hending hget rfl (by rw [hact]; rfl) (by rw [hact]; rfl)
          (by rw [hact]; rfl)
      · have hact := act_acquire (ε := ε) (α := α) hc hpermit
        refine .nothing (by simp [ending?, hpermit]) (by simp) (by rw [hact]; exact Nat.le_refl _)
          (by rw [hact]; rfl) ?_
        rw [hact]
        exact map_set_phase hget .running
  | finish i result =>
    cases hc : u.caller? i .running with
    | none => exact visit_of_act_eq (by simp [ending?, hc]) (by simp) (by simp [act, hc])
    | some c =>
      obtain ⟨hget, -⟩ := caller?_eq_some.1 hc
      have hact := act_finish hc result
      have hending : u.ending? (.finish i result) = some ⟨i, c.admission, result.isOk⟩ := by
        simp [ending?, hc]
      exact .ended _ c hending hget rfl (by rw [hact]; rfl) (by rw [hact]; rfl) (by rw [hact]; rfl)
  | release =>
    by_cases hleaving : u.leaving = 0
    · exact visit_of_act_eq rfl (by simp) (by simp [act, hleaving])
    · refine .nothing rfl (by simp) ?_ ?_ ?_ <;> simp [act, hleaving, setAvailable, machine]
  | drop i =>
    cases hc : u.caller? i .running with
    | none => exact visit_of_act_eq rfl (by simp) (by simp [act, hc])
    | some c =>
      obtain ⟨hget, -⟩ := caller?_eq_some.1 hc
      have hact := act_drop (ε := ε) (α := α) hc
      refine .nothing rfl (by simp) (by rw [hact]; exact Nat.le_refl _) (by rw [hact]; rfl) ?_
      rw [hact]
      exact map_set_phase hget .dropped
  | abandon i =>
    cases hc : u.caller? i .dropped with
    | none => exact visit_of_act_eq rfl (by simp) (by simp [act, hc])
    | some c =>
      obtain ⟨hget, -⟩ := caller?_eq_some.1 hc
      have hact := act_abandon (ε := ε) (α := α) hc
      exact .abandoned i c rfl (by simp) hget (by rw [hact]; rfl) (by rw [hact]; rfl)
        (by rw [hact])

/-- A turn at which a call is over has nothing to do with the machine but to tell it so. -/
theorem machine_of_ending {turn : Turn ε α} {e : Ending} (hending : u.ending? turn = some e) :
    (∃ c, u.callers[e.place]? = some c ∧ c.admission = e.admission) ∧
      (u.act turn).machine = u.machine.record u.settings e.admission e.success u.now := by
  cases u.visit turn with
  | ended e' c hending' hget hadmission _ hmachine _ =>
    obtain rfl : e' = e := Option.some.inj (hending'.symm.trans hending)
    exact ⟨⟨c, hget, hadmission⟩, hmachine⟩
  | admitted _ _ hcome =>
    subst hcome
    contradiction
  | abandoned _ _ hnone =>
    rw [hnone] at hending
    contradiction
  | nothing hnone =>
    rw [hnone] at hending
    contradiction

/-- The clock does not go back. -/
theorem now_le_act (u : Service) (turn : Turn ε α) : u.now ≤ (u.act turn).now := by
  cases u.visit turn with
  | ended _ _ _ _ _ hnow => exact Nat.le_of_eq hnow.symm
  | admitted _ _ _ _ hnow => exact Nat.le_of_eq hnow.symm
  | abandoned _ _ _ _ _ hnow => exact Nat.le_of_eq hnow.symm
  | nothing _ _ hnow => exact hnow

@[simp] theorem settings_act (u : Service) (turn : Turn ε α) :
    (u.act turn).settings = u.settings := by
  cases turn with
  | wait ms => rfl
  | come => simp only [act]; split <;> rfl
  | acquire i =>
    simp only [act]
    split
    · rfl
    · split <;> rfl
  | finish i result => simp only [act]; split <;> rfl
  | release => simp only [act]; split <;> rfl
  | drop i => simp only [act]; split <;> rfl
  | abandon i => simp only [act]; split <;> rfl

@[simp] theorem machine_step (u : Service) (turn : Turn ε α) :
    (u.step turn).machine = (u.act turn).machine := rfl

@[simp] theorem callers_step (u : Service) (turn : Turn ε α) :
    (u.step turn).callers = (u.act turn).callers := rfl

@[simp] theorem now_step (u : Service) (turn : Turn ε α) :
    (u.step turn).now = (u.act turn).now := rfl

@[simp] theorem settings_step (u : Service) (turn : Turn ε α) :
    (u.step turn).settings = u.settings := settings_act u turn

/-! ### Histories of the machine -/

/-- The machine of the breaker, in use. -/
def traffic (u : Service) : Traffic := ⟨u.now, u.machine, u.callers.map (·.admission)⟩

/-- A turn is a history of the machine: at most one visit. -/
theorem reaches_step (u : Service) (turn : Turn ε α) :
    Traffic.Reaches u.settings u.traffic (u.step turn).traffic := by
  have htraffic : (u.step turn).traffic = (u.act turn).traffic := by simp [traffic]
  rw [htraffic]
  cases u.visit turn with
  | ended e c _ hget hadmission hnow hmachine hcallers =>
    refine ⟨[.settle e.place e.success], ?_⟩
    simp [Traffic.run, Traffic.step, traffic, hget, hadmission, hnow, hmachine, hcallers,
      List.eraseIdx_map]
  | admitted m a _ henter hnow hmachine hcallers =>
    refine ⟨[.enter], ?_⟩
    simp [Traffic.run, Traffic.step, traffic, henter, hnow, hmachine, hcallers]
  | abandoned i c _ _ hget hnow hmachine hcallers =>
    refine ⟨[.abandon i], ?_⟩
    simp [Traffic.run, Traffic.step, traffic, hget, hnow, hmachine, hcallers, List.eraseIdx_map]
  | nothing _ _ hnow hmachine hcallers =>
    have hlive : (u.act turn).callers.map (·.admission) = u.callers.map (·.admission) := by
      simpa [Function.comp_def] using congrArg (List.map Prod.fst) hcallers
    simpa [traffic, hmachine, hlive] using
      Traffic.reaches_wait (s := u.settings) (t := u.traffic) hnow

variable {s : BreakerSettings}

/-- A run is a history of the machine, under settings that stay as they are. -/
theorem reaches_run (name : String) (s : BreakerSettings) (start : Nat)
    (turns : List (Turn ε α)) :
    ((fresh name s start).run turns).settings = s ∧
      Traffic.Reaches s (.fresh start) ((fresh name s start).run turns).traffic := by
  let Inv (u : Service) : Prop := u.settings = s ∧ Traffic.Reaches s (.fresh start) u.traffic
  have hfresh : Inv (fresh name s start) := ⟨rfl, Traffic.Reaches.refl s _⟩
  refine run_induction ?_ hfresh turns
  rintro u turn ⟨hsettings, hreaches⟩
  refine ⟨by simpa using hsettings, hreaches.trans ?_⟩
  have hstep := u.reaches_step turn
  rwa [hsettings] at hstep

/-- A breaker keeps its settings, and its machine is sound. -/
structure IsSound (s : BreakerSettings) (u : Service) : Prop where
  settings : u.settings = s
  traffic : Traffic.IsSound s u.traffic

theorem isSound_fresh (name : String) (s : BreakerSettings) (start : Nat) :
    IsSound s (fresh name s start) := ⟨rfl, Traffic.isSound_fresh s start⟩

theorem IsSound.step (h : IsSound s u) (turn : Turn ε α) : IsSound s (u.step turn) := by
  obtain ⟨hsettings, htraffic⟩ := h
  have hreaches := u.reaches_step turn
  rw [hsettings] at hreaches
  exact ⟨by simpa using hsettings, hreaches.isSound htraffic⟩

/-- Whatever happens to a breaker in service, it is sound. -/
theorem isSound_run (name : String) (s : BreakerSettings) (start : Nat)
    (turns : List (Turn ε α)) : IsSound s ((fresh name s start).run turns) := by
  obtain ⟨hsettings, hreaches⟩ := reaches_run name s start turns
  exact ⟨hsettings, hreaches.isSound (Traffic.isSound_fresh s start)⟩

/-- A trial that was let in holds the breaker half open until it is over or given up. -/
theorem IsSound.state_of_trial (h : IsSound s u)
    (hget : u.callers[i]? = some c) (hc : c.admission = .trial) : u.machine.state = .halfOpen := by
  have hmem : .trial ∈ u.callers.map (·.admission) :=
    hc ▸ List.mem_map_of_mem (List.mem_of_getElem? hget)
  exact (h.traffic.trialInFlight_of_mem hmem).2.1

/-! ### The whole -/

/-- Along every history of its machine a breaker is sound and not blocked. So it is whatever happens
to a breaker in service, which is such a history and does what `start`, `settle` and `cancel` do;
and whatever is done with a timeline. -/
theorem run_isSound (ε α : Type) (name : String) (s : BreakerSettings) (start : Nat) :
    (∀ moves, Traffic.IsSteady s (Traffic.run s (.fresh start) moves)) ∧
      (∀ turns : List (Turn ε α), let u := (fresh name s start).run turns
        Traffic.Reaches s (.fresh start) u.traffic ∧ Traffic.IsSteady s u.traffic ∧
          u.settings = s ∧ IsServed ε α u) ∧
      ∀ acts : List (Timeline.Act ε α),
        let t := (Timeline.ofBreaker (CircuitBreaker.fresh name s 0)).actAll acts
        Traffic.Reaches s (.fresh 0) t.traffic ∧ Traffic.IsSteady s t.traffic := by
  have hsteady {start : Nat} {t : Traffic} (h : Traffic.Reaches s (.fresh start) t) :
      Traffic.IsSteady s t := (h.isSound (Traffic.isSound_fresh s start)).isSteady
  refine ⟨fun moves => hsteady ⟨moves, rfl⟩, fun turns => ?_, fun acts => ?_⟩
  · obtain ⟨hsettings, hreaches⟩ := reaches_run name s start turns
    exact ⟨hreaches, hsteady hreaches, hsettings, isServed _⟩
  · have hreaches := Timeline.reaches_actAll name s acts
    exact ⟨hreaches, hsteady hreaches⟩

/-- A breaker that opens at the first failure. -/
def jumpy : BreakerSettings := { BreakerSettings.standard with requestVolumeThreshold := 1 }

/-- Two calls come and one fails. When the breaker has slept, a third call is its trial and a fourth
is refused; the second call, which is late, succeeds, and the trial is given up. -/
def interrupted : Service :=
  (fresh "b" jumpy 0).run
    ([.come, .acquire 0, .come, .acquire 1, .finish 0 (.error (.inner ())), .release, .wait 15000,
      .come, .acquire 1, .come, .finish 0 (.ok ()), .release, .drop 0, .abandon 0] :
      List (Turn Unit Unit))

theorem run_isSound_interrupted :
    interrupted.machine.state = .halfOpen ∧ .trial ∉ interrupted.traffic.live ∧
      Traffic.IsSteady jumpy interrupted.traffic ∧ ∀ now, interrupted.machine.enter jumpy now =
        some ({ interrupted.machine with trialInFlight := true }, .trial) := by
  have hstate : interrupted.machine.state = .halfOpen := by decide +kernel
  have hlive : .trial ∉ interrupted.traffic.live := by decide +kernel
  have hsteady : Traffic.IsSteady jumpy interrupted.traffic :=
    ((run_isSound Unit Unit "b" jumpy 0).2.1 _).2.1
  exact ⟨hstate, hlive, hsteady, hsteady.enter hstate hlive⟩

end Service

end ModerationGateway.Breaker
