import ModerationGateway.Proofs.Breaker.Service

/-!
# Outcomes from an earlier period

Each time a breaker leaves the closed state a period of counting is over. A call that was let in
before can be over much later, when the breaker has closed again and counts anew.

* `Service.IsDated`: what the dates of the callers say about the state;
* `Service.isDated_run`: it holds along every run;
* `Service.ending_of_normal`: an outcome from an earlier period is ignored for as long as the
  breaker is not closed. Once it is closed again the outcome counts, like one of the new period;
* `Service.late_outcome_counts`: so it can open the breaker a second time.
-/

namespace ModerationGateway.Breaker.Service

open Machine

variable {ε α : Type} {u : Service}

/-- What the dates of the callers say: none is from a later period, and the current one lasts while
a call of it that is no trial is live. -/
structure IsDated (u : Service) : Prop where
  since_le : ∀ c ∈ u.callers, c.since ≤ u.exits
  closed_of_current :
    ∀ c ∈ u.callers, c.admission = .normal → c.since = u.exits → u.machine.state = .closed

theorem isDated_fresh (name : String) (s : BreakerSettings) (start : Nat) :
    IsDated (fresh name s start) := by
  constructor <;> simp [fresh]

/-- A call is live after a turn if it was before, or it is the one that came. -/
theorem mem_callers_act {turn : Turn ε α} {c : Caller} (hc : c ∈ (u.act turn).callers) :
    (∃ c' ∈ u.callers, c'.admission = c.admission ∧ c'.since = c.since) ∨
      (c.since = u.exits ∧
        u.machine.enter u.settings u.now = some ((u.act turn).machine, c.admission)) := by
  cases u.visit turn with
  | ended e _ _ _ _ _ _ hcallers =>
    rw [hcallers] at hc
    exact .inl ⟨c, List.mem_of_mem_eraseIdx hc, rfl, rfl⟩
  | admitted m a _ henter _ hmachine hcallers =>
    rw [hcallers, List.mem_append, List.mem_singleton] at hc
    rcases hc with hc | rfl
    · exact .inl ⟨c, hc, rfl, rfl⟩
    · exact .inr ⟨rfl, by rw [hmachine]; exact henter⟩
  | abandoned i _ _ _ _ _ _ hcallers =>
    rw [hcallers] at hc
    exact .inl ⟨c, List.mem_of_mem_eraseIdx hc, rfl, rfl⟩
  | nothing _ _ _ _ hcallers =>
    have hmem := List.mem_map_of_mem (f := fun c => (c.admission, c.since)) hc
    rw [hcallers, List.mem_map] at hmem
    obtain ⟨c', hc', heq⟩ := hmem
    exact .inl ⟨c', hc', congrArg Prod.fst heq, congrArg Prod.snd heq⟩

/-- The count of exits goes up exactly when the closed state is left. -/
theorem exits_step (u : Service) (turn : Turn ε α) :
    (u.step turn).exits =
      if u.machine.state = .closed ∧ (u.act turn).machine.state ≠ .closed then u.exits + 1
      else u.exits := rfl

theorem exits_le_step (u : Service) (turn : Turn ε α) : u.exits ≤ (u.step turn).exits := by
  rw [exits_step]
  split
  · exact Nat.le_succ u.exits
  · exact Nat.le_refl u.exits

theorem IsDated.step (h : IsDated u) (turn : Turn ε α) : IsDated (u.step turn) := by
  constructor
  · intro c hc
    rw [callers_step] at hc
    rcases mem_callers_act hc with ⟨c', hc', -, hsince⟩ | ⟨hsince, -⟩
    · exact Nat.le_trans (hsince ▸ h.since_le c' hc') (exits_le_step u turn)
    · exact hsince ▸ exits_le_step u turn
  · intro c hc hnormal hcurrent
    rw [callers_step] at hc
    rw [exits_step] at hcurrent
    show (u.act turn).machine.state = .closed
    rcases mem_callers_act hc with
      ⟨c', hc', hadmission, hsince⟩ | ⟨hsince, henter⟩
    · -- it is from before the turn, so if the turn ended the period, it is from an earlier one
      have hle := h.since_le c' hc'
      by_contra hleft
      by_cases hclosed : u.machine.state = .closed
      · rw [if_pos ⟨hclosed, hleft⟩] at hcurrent
        omega
      · rw [if_neg fun hexit => hclosed hexit.1] at hcurrent
        exact hclosed (h.closed_of_current c' hc' (hadmission.trans hnormal)
          (hsince.trans hcurrent))
    · -- it is let in by the turn as one of many, which only a closed breaker does
      rw [hnormal] at henter
      rcases Machine.enter_cases henter with ⟨hclosed, hrolled, -⟩ | ⟨-, -, -, h⟩ | ⟨-, -, -, h⟩
      · rw [hrolled, Machine.state_roll]
        exact hclosed
      · contradiction
      · contradiction

/-- Along every run the dates are right. -/
theorem isDated_run (name : String) (s : BreakerSettings) (start : Nat)
    (turns : List (Turn ε α)) : IsDated ((fresh name s start).run turns) :=
  run_induction (fun _ turn h => h.step turn) (isDated_fresh name s start) turns

/-- What becomes of the outcome of a call that was let in as one of many, at any moment of any run.
While the breaker is not closed the call is from an earlier period and its outcome is ignored.
While it is closed the outcome is counted and can open it, whatever period the call is from. -/
theorem ending_of_normal (name : String) (s : BreakerSettings) (start : Nat)
    (turns : List (Turn ε α)) (turn : Turn ε α) (e : Ending) (c : Caller)
    (hending : ((fresh name s start).run turns).ending? turn = some e)
    (hnormal : e.admission = .normal)
    (hget : ((fresh name s start).run turns).callers[e.place]? = some c) :
    let u := (fresh name s start).run turns
    (u.machine.state ≠ .closed → c.since < u.exits ∧ (u.step turn).machine = u.machine) ∧
      (u.machine.state = .closed →
        (u.step turn).machine.counts =
            Counts.add (u.machine.roll s u.now).counts e.success ∧
          ((u.step turn).machine.state ≠ .closed ↔
            s.enabled && shouldTrip s (u.step turn).machine.counts)) := by
  intro u
  have hdated : IsDated u := isDated_run name s start turns
  obtain ⟨⟨c', hget', hadmission⟩, hmachine⟩ := machine_of_ending hending
  obtain rfl : c' = c := Option.some.inj (hget'.symm.trans hget)
  rw [hnormal, (isSound_run name s start turns).settings] at hmachine
  constructor
  · intro hstate
    have hmem : c' ∈ u.callers := List.mem_of_getElem? hget
    have hpast : c'.since ≠ u.exits := fun hcurrent =>
      hstate (hdated.closed_of_current c' hmem (hadmission.trans hnormal) hcurrent)
    refine ⟨Nat.lt_of_le_of_ne (hdated.since_le c' hmem) hpast, ?_⟩
    exact hmachine.trans (record_normal_of_ne_closed hstate s e.success u.now)
  · intro hstate
    obtain ⟨hcounts, hafter⟩ := record_normal_of_closed hstate s e.success u.now
    show (u.act turn).machine.counts = _ ∧ ((u.act turn).machine.state ≠ .closed ↔
      (s.enabled && shouldTrip s (u.act turn).machine.counts) = true)
    rw [hmachine, hcounts, hafter]
    refine ⟨rfl, ?_⟩
    split <;> simp [*]

/-- A breaker that opens at the first failure and tries again after ten milliseconds. -/
def hasty : BreakerSettings :=
  { BreakerSettings.standard with
    requestVolumeThreshold := 1, errorThresholdPercentage := 100, sleepWindowMs := 10,
    timeoutMs := 1000 }

/-- Two calls run and the second one fails. Ten milliseconds later a trial closes the breaker, and
the first call is still running ninety milliseconds after that. -/
def overlong : List (Turn Unit Unit) :=
  [.come, .acquire 0, .come, .acquire 1, .finish 1 (.error (.inner ())), .release, .wait 10,
    .come, .acquire 1, .finish 1 (.ok ()), .release, .wait 90]

/-- The late failure of the first call. -/
def lateFailure : Turn Unit Unit := .finish 0 (.error (.inner ()))

/-- The first call is from before the breaker opened, and its failure counts. -/
theorem ending_of_normal_overlong :
    let u := (fresh "b" hasty 0).run overlong
    u.ending? lateFailure = some ⟨0, .normal, false⟩ ∧
      u.callers[0]? = some ⟨.normal, .running, 0⟩ ∧ u.exits = 1 ∧
      (u.step lateFailure).machine.counts = Counts.add (u.machine.roll hasty u.now).counts false ∧
      (u.step lateFailure).machine.state ≠ .closed := by
  intro u
  have hending : u.ending? lateFailure = some ⟨0, .normal, false⟩ := by decide
  have hget : u.callers[0]? = some ⟨.normal, .running, 0⟩ := by decide
  have hclosed : u.machine.state = .closed := by decide
  have hcounts := (ending_of_normal "b" hasty 0 overlong lateFailure _ _ hending rfl hget).2 hclosed
  exact ⟨hending, hget, by decide, hcounts.1, by decide⟩

/-- So it is not the case that outcomes from before the breaker last left the closed state change
neither the counts nor the state once it has closed again. -/
theorem late_outcome_counts :
    ¬ ∀ (name : String) (s : BreakerSettings) (start : Nat) (turns : List (Turn Unit Unit))
        (turn : Turn Unit Unit) (e : Ending) (c : Caller),
      let u := (fresh name s start).run turns
      u.ending? turn = some e → e.admission = .normal → u.callers[e.place]? = some c →
        c.since < u.exits → u.machine.state = .closed →
          (u.step turn).machine.counts.requests = u.machine.counts.requests ∧
            (u.step turn).machine.counts.errors = u.machine.counts.errors ∧
            (u.step turn).machine.state = u.machine.state := by
  intro h
  have hlate := h "b" hasty 0 overlong lateFailure ⟨0, .normal, false⟩ ⟨.normal, .running, 0⟩
    (by decide) rfl (by decide) (by decide) (by decide)
  exact absurd hlate.2.2 (by decide)

end ModerationGateway.Breaker.Service
