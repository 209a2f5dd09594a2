import Mathlib.Data.List.Perm.Basic
import ModerationGateway.Breaker.Machine

/-!
# Callers of a circuit breaker

Calls come, are over and are given up in any order while time goes by. A call visits the machine
when it comes and again when it is over or given up; from the one to the other it is live. A call
that finds no permit, or takes too long, is over with a failure.

* `Machine.enter_cases`, `Machine.record_normal`, `Machine.record_trial`: all that a visit can do;
* `Traffic`: the machine, the time, and how the live calls were let in;
* `Move`, `step`, `run`: what happens next, and a history from some state on;
* `IsSound`: what is known of a breaker at every moment;
* `isSound_step`, `IsSound.run`: every move keeps it, and so it holds along every history;
* `IsSteady`, `IsSound.isSteady`: and a half-open breaker without a trial lets the next call in.
-/

namespace ModerationGateway.Breaker

/-! ### Visits to the machine -/

namespace Machine

variable {m m' : Machine} {s : BreakerSettings} {a : Admission} {now : Nat}

/-- Being let in: a closed breaker counts anew if its window is over; an open one that has slept
and a half-open one without a trial start one. -/
theorem enter_cases (h : m.enter s now = some (m', a)) :
    (m.state = .closed ∧ m' = m.roll s now ∧ a = .normal) ∨
      (m.state = .opened ∧ m.hasSlept s now = true ∧
        m' = { m with state := .halfOpen, trialInFlight := true } ∧ a = .trial) ∨
      (m.state = .halfOpen ∧ m.trialInFlight = false ∧
        m' = { m with trialInFlight := true } ∧ a = .trial) := by
  unfold enter at h
  split at h
  next hstate =>
    simp only [Option.some.injEq, Prod.mk.injEq] at h
    exact .inl ⟨hstate, h.1.symm, h.2.symm⟩
  next hstate =>
    split at h
    next hslept =>
      simp only [Option.some.injEq, Prod.mk.injEq] at h
      exact .inr (.inl ⟨hstate, hslept, h.1.symm, h.2.symm⟩)
    next => contradiction
  next hstate =>
    split at h
    next => contradiction
    next hflight =>
      simp only [Option.some.injEq, Prod.mk.injEq] at h
      exact .inr (.inr ⟨hstate, by simpa using hflight, h.1.symm, h.2.symm⟩)

/-- A half-open breaker without a trial starts one, whenever the next call comes. -/
theorem enter_of_halfOpen (hstate : m.state = .halfOpen) (hflight : m.trialInFlight = false)
    (s : BreakerSettings) (now : Nat) :
    m.enter s now = some ({ m with trialInFlight := true }, .trial) := by
  simp [enter, hstate, hflight]

/-- The machine with one outcome more in its window, or in a new one if that is over. -/
def counted (m : Machine) (s : BreakerSettings) (success : Bool) (now : Nat) : Machine :=
  { m with counts := Counts.add (m.roll s now).counts success }

/-- The outcome of a call that is no trial counts while the breaker is closed, and may open it. -/
theorem record_normal (m : Machine) (s : BreakerSettings) (success : Bool) (now : Nat) :
    m.record s .normal success now =
      if m.state = .closed then
        if s.enabled && shouldTrip s (m.counted s success now).counts then
          (m.counted s success now).trip now
        else m.counted s success now
      else m := by
  have hrolled : { m.roll s now with counts := Counts.add (m.roll s now).counts success } =
      m.counted s success now := by
    unfold counted roll
    split <;> rfl
  simp only [record, ← hrolled]

/-- A closed breaker counts the outcome, and opens if the counts are then enough. -/
theorem record_normal_of_closed (hclosed : m.state = .closed) (s : BreakerSettings)
    (success : Bool) (now : Nat) :
    let k := (m.counted s success now).counts
    (m.record s .normal success now).counts = k ∧
      (m.record s .normal success now).state =
        if s.enabled && shouldTrip s k then .opened else .closed := by
  intro k
  rw [record_normal, if_pos hclosed]
  by_cases htrip : (s.enabled && shouldTrip s k) = true
  · rw [if_pos htrip, if_pos htrip]
    exact ⟨rfl, rfl⟩
  · rw [if_neg htrip, if_neg htrip]
    exact ⟨rfl, hclosed⟩

theorem record_trial (m : Machine) (s : BreakerSettings) (success : Bool) (now : Nat) :
    m.record s .trial success now = if success then fresh now else m.trip now := rfl

@[simp] theorem trialInFlight_roll (m : Machine) (s : BreakerSettings) (now : Nat) :
    (m.roll s now).trialInFlight = m.trialInFlight := by
  unfold roll; split <;> rfl

/-- There are never more failures than outcomes. -/
theorem errors_roll_le (h : m.counts.errors ≤ m.counts.requests) (s : BreakerSettings) (now : Nat) :
    (m.roll s now).counts.errors ≤ (m.roll s now).counts.requests := by
  unfold roll
  split
  · exact Nat.le_refl 0
  · exact h

theorem errors_counted_le (h : m.counts.errors ≤ m.counts.requests) (s : BreakerSettings)
    (success : Bool) (now : Nat) :
    (m.counted s success now).counts.errors ≤ (m.counted s success now).counts.requests := by
  have hroll := errors_roll_le h s now
  simp only [counted, Counts.add]
  split
  · exact Nat.le_succ_of_le hroll
  · exact Nat.succ_le_succ hroll

end Machine

/-! ### Histories -/

/-- A breaker in use: the time, its machine, and how each live call was let in. -/
structure Traffic where
  now : Nat
  machine : Machine
  live : List Admission
  deriving DecidableEq, Repr

/-- What can happen: time goes by, a call comes, a live call is over, a live call is given up. -/
inductive Move where
  | wait (ms : Nat)
  | enter
  | settle (i : Nat) (success : Bool)
  | abandon (i : Nat)
  deriving DecidableEq, Repr

namespace Traffic

/-- A breaker that nobody has called. -/
def fresh (now : Nat) : Traffic := ⟨now, .fresh now, []⟩

/-- What a move does. Only calls that are live can be over or given up. -/
def step (s : BreakerSettings) (t : Traffic) : Move → Traffic
  | .wait ms => { t with now := t.now + ms }
  | .enter =>
    match t.machine.enter s t.now with
    | none => t
    | some (m, a) => { t with machine := m, live := t.live ++ [a] }
  | .settle i success =>
    match t.live[i]? with
    | none => t
    | some a => ⟨t.now, t.machine.record s a success t.now, t.live.eraseIdx i⟩
  | .abandon i =>
    match t.live[i]? with
    | none => t
    | some a => ⟨t.now, t.machine.abandon a, t.live.eraseIdx i⟩

/-- Moves one after the other. -/
def run (s : BreakerSettings) (t : Traffic) (moves : List Move) : Traffic :=
  moves.foldl (step s) t

theorem run_append (s : BreakerSettings) (t : Traffic) (moves more : List Move) :
    run s t (moves ++ more) = run s (run s t moves) more := List.foldl_append

/-- What is known of a breaker at every moment. -/
structure IsSound (s : BreakerSettings) (t : Traffic) : Prop where
  /-- The breaker knows whether a trial is live, and there are never two. -/
  count_trial : t.live.count .trial = if t.machine.trialInFlight then 1 else 0
  halfOpen_of_trial : t.machine.trialInFlight = true → t.machine.state = .halfOpen
  openedAt_of_opened : t.machine.state = .opened → t.machine.openedAt.isSome = true
  openedAt_of_closed : t.machine.state = .closed → t.machine.openedAt = none
  errors_le : t.machine.counts.errors ≤ t.machine.counts.requests
  closed_of_disabled : s.enabled = false → t.machine.state = .closed

variable {s : BreakerSettings} {t : Traffic}

theorem isSound_fresh (s : BreakerSettings) (now : Nat) : IsSound s (fresh now) := by
  constructor <;> simp [fresh, Machine.fresh, Counts.fresh]

/-- One live call fewer is live. -/
theorem count_eraseIdx {live : List Admission} {i : Nat} {a : Admission} (h : live[i]? = some a)
    (b : Admission) : live.count b = (live.eraseIdx i).count b + if a = b then 1 else 0 := by
  obtain ⟨hi, rfl⟩ := List.getElem?_eq_some_iff.1 h
  rw [← (List.getElem_cons_eraseIdx_perm hi).count_eq b, List.count_cons]
  simp

namespace IsSound

/-- A trial is live exactly while the breaker is half open and waits for it. -/
theorem trialInFlight_of_mem (h : IsSound s t) (hlive : .trial ∈ t.live) :
    t.machine.trialInFlight = true ∧ t.machine.state = .halfOpen ∧ s.enabled = true := by
  have hflight : t.machine.trialInFlight = true := by
    by_contra hflight
    have hcount := h.count_trial
    rw [if_neg hflight] at hcount
    exact List.count_eq_zero.1 hcount hlive
  have hstate := h.halfOpen_of_trial hflight
  refine ⟨hflight, hstate, ?_⟩
  by_contra henabled
  have hclosed := h.closed_of_disabled (by simpa using henabled)
  rw [hstate] at hclosed
  contradiction

theorem trialInFlight_of_not_mem (h : IsSound s t) (hlive : .trial ∉ t.live) :
    t.machine.trialInFlight = false := by
  have hcount := h.count_trial
  rw [List.count_eq_zero.2 hlive] at hcount
  by_contra hflight
  simp [hflight] at hcount

theorem trialInFlight_of_state (h : IsSound s t) (hstate : t.machine.state ≠ .halfOpen) :
    t.machine.trialInFlight = false := by
  by_contra hflight
  exact hstate (h.halfOpen_of_trial (by simpa using hflight))

/-- A call comes and is let in. -/
theorem enter (h : IsSound s t) {m : Machine} {a : Admission}
    (hm : t.machine.enter s t.now = some (m, a)) :
    IsSound s { t with machine := m, live := t.live ++ [a] } := by
  have hcount := h.count_trial
  rcases Machine.enter_cases hm with
    ⟨hstate, rfl, rfl⟩ | ⟨hstate, -, rfl, rfl⟩ | ⟨hstate, hflight, rfl, rfl⟩
  · -- closed: no trial is live before, and the call is none
    have hflight := h.trialInFlight_of_state (by simp [hstate])
    rw [hflight] at hcount
    constructor
    · simpa [hflight] using hcount
    · simp [hflight]
    · simp [hstate]
    · simpa using h.openedAt_of_closed
    · exact Machine.errors_roll_le h.errors_le s t.now
    · simpa using h.closed_of_disabled
  · -- open and slept: no trial is live before, and the call is one
    have hflight := h.trialInFlight_of_state (by simp [hstate])
    rw [hflight] at hcount
    constructor
    · simpa using hcount
    · simp
    · simp
    · simp
    · exact h.errors_le
    · intro henabled
      rw [h.closed_of_disabled henabled] at hstate
      contradiction
  · -- half open without a trial, which the call now is
    rw [hflight] at hcount
    constructor
    · simpa using hcount
    · exact fun _ => hstate
    · simp [hstate]
    · simp [hstate]
    · exact h.errors_le
    · exact h.closed_of_disabled

/-- A live call is over. -/
theorem settle (h : IsSound s t) {i : Nat} {a : Admission} (ha : t.live[i]? = some a)
    (success : Bool) :
    IsSound s ⟨t.now, t.machine.record s a success t.now, t.live.eraseIdx i⟩ := by
  have hcount := h.count_trial
  rw [count_eraseIdx ha] at hcount
  cases a with
  | trial =>
    obtain ⟨hflight, -, henabled⟩ := h.trialInFlight_of_mem (List.mem_of_getElem? ha)
    rw [hflight] at hcount
    -- it was the only trial, so that none is left when it decides the state
    have hnone : (t.live.eraseIdx i).count .trial = 0 := by simpa using hcount
    rw [Machine.record_trial]
    cases success with
    | true => constructor <;> simp [Machine.fresh, Counts.fresh, hnone]
    | false => constructor <;> simp [Machine.trip, hnone, h.errors_le, henabled]
  | normal =>
    simp only [reduceCtorEq, if_false, Nat.add_zero] at hcount
    rw [Machine.record_normal]
    split
    next hstate =>
      have hflight := h.trialInFlight_of_state (by simp [hstate])
      have herrors := Machine.errors_counted_le h.errors_le s success t.now
      rw [hflight] at hcount
      split
      next htrip =>
        have henabled : s.enabled = true := (Bool.and_eq_true_iff.1 htrip).1
        constructor <;> simp [Machine.trip, hcount, herrors, henabled]
      next =>
        constructor
        · simp [Machine.counted, hflight, hcount]
        · simp [Machine.counted, hflight]
        · simp [Machine.counted, hstate]
        · exact h.openedAt_of_closed
        · exact herrors
        · exact h.closed_of_disabled
    next => exact ⟨hcount, h.2, h.3, h.4, h.5, h.6⟩

/-- A live call is given up. -/
theorem abandon (h : IsSound s t) {i : Nat} {a : Admission} (ha : t.live[i]? = some a) :
    IsSound s ⟨t.now, t.machine.abandon a, t.live.eraseIdx i⟩ := by
  have hcount := h.count_trial
  rw [count_eraseIdx ha] at hcount
  cases a with
  | trial =>
    obtain ⟨hflight, -, -⟩ := h.trialInFlight_of_mem (List.mem_of_getElem? ha)
    rw [hflight] at hcount
    constructor
    · simpa [Machine.abandon] using hcount
    · simp [Machine.abandon]
    · exact h.openedAt_of_opened
    · exact h.openedAt_of_closed
    · exact h.errors_le
    · exact h.closed_of_disabled
  | normal =>
    simp only [reduceCtorEq, if_false, Nat.add_zero] at hcount
    exact ⟨hcount, h.2, h.3, h.4, h.5, h.6⟩

end IsSound

/-- Every move keeps a breaker sound. -/
theorem isSound_step (h : IsSound s t) (move : Move) : IsSound s (step s t move) := by
  cases move with
  | wait ms => exact ⟨h.1, h.2, h.3, h.4, h.5, h.6⟩
  | enter =>
    simp only [step]
    split
    next => exact h
    next m a hm => exact h.enter hm
  | settle i success =>
    simp only [step]
    split
    next => exact h
    next a ha => exact h.settle ha success
  | abandon i =>
    simp only [step]
    split
    next => exact h
    next a ha => exact h.abandon ha

theorem IsSound.run (h : IsSound s t) (moves : List Move) : IsSound s (run s t moves) := by
  induction moves generalizing t with
  | nil => exact h
  | cons move moves ih => exact ih (isSound_step h move)

/-- A breaker is sound, and while it is half open and no trial is live the next call is let in as
one, whenever it comes. Neither a call that was given up nor a late outcome can block it. -/
structure IsSteady (s : BreakerSettings) (t : Traffic) : Prop where
  sound : IsSound s t
  enter : t.machine.state = .halfOpen → .trial ∉ t.live →
    ∀ now, t.machine.enter s now = some ({ t.machine with trialInFlight := true }, .trial)

theorem IsSound.isSteady (h : IsSound s t) : IsSteady s t where
  sound := h
  enter hstate hlive now :=
    Machine.enter_of_halfOpen hstate (h.trialInFlight_of_not_mem hlive) s now

end Traffic

end ModerationGateway.Breaker
