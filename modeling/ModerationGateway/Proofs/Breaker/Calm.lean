import ModerationGateway.Breaker.Basic
import ModerationGateway.Proofs.Breaker.Traffic

/-!
# Breakers without failures

A closed breaker without a failure in its window stays so for as long as every call succeeds,
provided that a share of no failures is not enough to open it.

* `Machine.IsCalm`: closed, and no failure is counted;
* `Machine.IsCalm.enter`, `Machine.IsCalm.record`: a call comes, and succeeds;
* `CircuitBreaker.call_of_isCalm`: a call that is alone and succeeds.
-/

namespace ModerationGateway.Breaker

open Machine

variable {ε α : Type}

/-- The breaker is closed, and no failure is counted. -/
structure Machine.IsCalm (m : Machine) : Prop where
  closed : m.state = .closed
  errors : m.counts.errors = 0

namespace Machine

variable {m : Machine} {s : BreakerSettings} {now : Nat}

theorem isCalm_fresh (now : Nat) : (fresh now).IsCalm := ⟨rfl, rfl⟩

theorem IsCalm.roll (h : m.IsCalm) (s : BreakerSettings) (now : Nat) : (m.roll s now).IsCalm := by
  refine ⟨(state_roll m s now).trans h.closed, ?_⟩
  unfold Machine.roll
  split
  · rfl
  · exact h.errors

/-- A call that comes is let in, as one of many. -/
theorem IsCalm.enter (h : m.IsCalm) (s : BreakerSettings) (now : Nat) :
    m.enter s now = some (m.roll s now, .normal) := by
  unfold Machine.enter
  rw [h.closed]

/-- No failures are not enough to open the breaker. -/
theorem shouldTrip_of_errors_eq_zero {k : Counts} (hk : k.errors = 0)
    (hthreshold : 1 ≤ s.errorThresholdPercentage.toNat) : shouldTrip s k = false := by
  have hshare : ¬ s.errorThresholdPercentage.toNat ≤ k.errors * 100 / k.requests := by
    rw [hk, Nat.zero_mul, Nat.zero_div]
    omega
  simp [shouldTrip, hshare]

/-- A call that succeeds leaves the breaker calm. -/
theorem IsCalm.record (h : m.IsCalm) (hthreshold : 1 ≤ s.errorThresholdPercentage.toNat)
    (now : Nat) : (m.record s .normal true now).IsCalm := by
  obtain ⟨hcounts, hstate⟩ := record_normal_of_closed h.closed s true now
  have herrors : (m.counted s true now).counts.errors = 0 := (h.roll s now).errors
  constructor
  · rw [hstate, shouldTrip_of_errors_eq_zero herrors hthreshold]
    simp
  · rw [hcounts, herrors]

end Machine

/-- A call that is alone, finds a permit and succeeds in time leaves the breaker as it was, but for
what is counted. -/
theorem CircuitBreaker.call_of_isCalm {b : CircuitBreaker} (h : b.machine.IsCalm)
    (hthreshold : 1 ≤ b.settings.errorThresholdPercentage.toNat) (hpermit : b.available ≠ 0)
    (now : Nat) {ms : Nat} {a : α} (hms : waitOf ms ≤ waitOf b.settings.timeoutMs.toNat) :
    let called := b.call now (⟨some ms, .ok a⟩ : Work ε α)
    called.result = .ok a ∧ called.started = true ∧ called.breaker.settings = b.settings ∧
      called.breaker.machine.IsCalm ∧ called.breaker.available = b.available := by
  intro called
  have hstart : b.start now = ({ b with
      machine := b.machine.roll b.settings now, available := b.available - 1 },
        .running .normal) := by
    unfold CircuitBreaker.start
    rw [h.enter]
    simp [hpermit]
  have hcalled : called = ⟨CircuitBreaker.settle { b with
      machine := b.machine.roll b.settings now, available := b.available - 1 } .normal true
        (now + waitOf ms), now + waitOf ms, .ok a, true⟩ := by
    simp only [called, CircuitBreaker.call, hstart, Work.deadline, hms, if_true]
    rfl
  rw [hcalled]
  exact ⟨rfl, rfl, rfl, (h.roll _ now).record hthreshold _, Nat.sub_add_cancel (by omega)⟩

end ModerationGateway.Breaker
