import Mathlib.Data.List.Sort
import ModerationGateway.Gateway.Stats
import ModerationGateway.Proofs.Lists

/-!
# Latencies

A gateway keeps the latencies of its newest requests, as many as its sample holds, and what it says
of them are order statistics of that sample.

* `countP_lt_getElem_le`, `lt_countP_le_getElem`: how many elements of a sorted list are smaller
  than one of them, and how many no greater;
* `IsPercentile`, `isPercentile_of_percentile`: what a percentile is, and that it is one;
* `percentile_mono`: higher percentiles are no smaller;
* `Event`, `run`: what can be counted, and the counts after some events;
* `recorded`, `latencies_run`: the latencies since the last reset, and those of them that are kept;
* `percentiles_run`: the percentiles after any events.
-/

namespace ModerationGateway.Gateway

variable {sorted : List Nat} {percent higher i x y : Nat}

/-! ### Sorted samples -/

/-- Whatever is smaller than an element of a sorted list stands in front of it. -/
theorem countP_lt_getElem_le (hsorted : sorted.SortedLE) (hi : i < sorted.length) :
    sorted.countP (· < sorted[i]) ≤ i := by
  have hrest : (sorted.drop i).countP (· < sorted[i]) = 0 := by
    rw [List.countP_eq_zero]
    intro y hy
    obtain ⟨k, hk, rfl⟩ := List.getElem_of_mem hy
    rw [List.getElem_drop, decide_eq_true_eq, Nat.not_lt]
    exact hsorted.getElem_le_getElem_of_le (Nat.le_add_right i k)
  calc sorted.countP (· < sorted[i])
      = (sorted.take i).countP (· < sorted[i]) + (sorted.drop i).countP (· < sorted[i]) := by
        rw [← List.countP_append, List.take_append_drop]
    _ = (sorted.take i).countP (· < sorted[i]) := by rw [hrest, Nat.add_zero]
    _ ≤ (sorted.take i).length := List.countP_le_length
    _ ≤ i := List.length_take_le i sorted

/-- Whatever stands in front of an element of a sorted list is no greater. -/
theorem lt_countP_le_getElem (hsorted : sorted.SortedLE) (hi : i < sorted.length) :
    i < sorted.countP (· ≤ sorted[i]) := by
  have hfront : (sorted.take (i + 1)).countP (· ≤ sorted[i]) = (sorted.take (i + 1)).length := by
    rw [List.countP_eq_length]
    intro y hy
    obtain ⟨k, hk, rfl⟩ := List.getElem_of_mem hy
    rw [List.length_take] at hk
    rw [List.getElem_take, decide_eq_true_eq]
    exact hsorted.getElem_le_getElem_of_le (by omega)
  calc i < (sorted.take (i + 1)).length := by rw [List.length_take]; omega
    _ = (sorted.take (i + 1)).countP (· ≤ sorted[i]) := hfront.symm
    _ ≤ sorted.countP (· ≤ sorted[i]) := (List.take_sublist (i + 1) sorted).countP_le

/-! ### Percentiles -/

/-- A latency is a percentile of a sample: it is one of it, at least so many hundredths of the
sample are no greater, and at most so many are smaller. -/
structure IsPercentile (sample : List Nat) (percent x : Nat) : Prop where
  mem : x ∈ sample
  le_countP : sample.length * percent ≤ 100 * sample.countP (· ≤ x)
  countP_le : 100 * sample.countP (· < x) ≤ sample.length * percent

/-- An element of the sorted sample is a percentile if its position is that of the percentile,
rounded down. -/
theorem isPercentile_getElem_rank {sample : List Nat} (hsorted : sorted.SortedLE)
    (hperm : sorted.Perm sample) (hpercent : percent ≤ 100)
    (hlt : Stats.rank sample.length percent < sorted.length) :
    IsPercentile sample percent sorted[Stats.rank sample.length percent] := by
  have hupto := lt_countP_le_getElem hsorted hlt
  have hbelow := countP_lt_getElem_le hsorted hlt
  rw [hperm.countP_eq] at hupto hbelow
  rw [hperm.length_eq] at hlt
  have hdiv := Nat.div_mul_le_self (sample.length * percent) 100
  have hrank : Stats.rank sample.length percent ≤ sample.length * percent / 100 :=
    Nat.min_le_left _ _
  refine ⟨hperm.mem_iff.1 (List.getElem_mem _), ?_, by omega⟩
  -- the position is cut off at the end of the sample, where there is nothing left to count
  rcases Nat.lt_or_ge (sample.length * percent / 100) sample.length with hinside | hbeyond
  · have hexact : Stats.rank sample.length percent = sample.length * percent / 100 := by
      rw [Stats.rank]
      omega
    omega
  · have hall : Stats.rank sample.length percent + 1 = sample.length := by
      rw [Stats.rank]
      omega
    calc sample.length * percent ≤ sample.length * 100 := Nat.mul_le_mul_left _ hpercent
      _ ≤ 100 * sample.countP (· ≤ sorted[Stats.rank sample.length percent]) := by omega

namespace Stats

variable {s : Stats}

theorem rank_mono (count : Nat) (h : percent ≤ higher) :
    rank count percent ≤ rank count higher := by
  have hle : count * percent / 100 ≤ count * higher / 100 :=
    Nat.div_le_div_right (Nat.mul_le_mul_left count h)
  rw [rank, rank]
  omega

/-- The kept latencies, from the smallest to the greatest. -/
def ranked (s : Stats) : List Nat := s.latencies.mergeSort

theorem sortedLE_ranked (s : Stats) : s.ranked.SortedLE := List.sortedLE_mergeSort

theorem ranked_perm (s : Stats) : s.ranked.Perm s.latencies := List.mergeSort_perm _ _

theorem percentile_eq_some_iff :
    s.percentile percent = some x ↔
      ∃ h : rank s.latencies.length percent < s.ranked.length,
        s.ranked[rank s.latencies.length percent] = x :=
  List.getElem?_eq_some_iff

theorem exists_percentile (h : s.latencies ≠ []) (percent : Nat) :
    ∃ x, s.percentile percent = some x := by
  have hrank := rank_lt (List.length_pos_iff_ne_nil.2 h) percent
  exact ⟨_, percentile_eq_some_iff.2 ⟨s.ranked_perm.length_eq ▸ hrank, rfl⟩⟩

theorem percentile_of_nil (h : s.latencies = []) (percent : Nat) : s.percentile percent = none := by
  simp [percentile, h]

theorem isPercentile_of_percentile (hpercent : percent ≤ 100) (h : s.percentile percent = some x) :
    IsPercentile s.latencies percent x := by
  obtain ⟨hlt, rfl⟩ := percentile_eq_some_iff.1 h
  exact isPercentile_getElem_rank s.sortedLE_ranked s.ranked_perm hpercent hlt

theorem percentile_mono (hle : percent ≤ higher) (hx : s.percentile percent = some x)
    (hy : s.percentile higher = some y) : x ≤ y := by
  obtain ⟨hlt, rfl⟩ := percentile_eq_some_iff.1 hx
  obtain ⟨hlt', rfl⟩ := percentile_eq_some_iff.1 hy
  exact s.sortedLE_ranked.getElem_le_getElem_of_le (rank_mono _ hle)

/-! ### Events -/

/-- What can happen to the counts. -/
inductive Event where
  | request (latency : Nat)
  | streaming
  | blocked
  | bypassed
  | error
  | reset
  deriving DecidableEq, Repr

/-- The counts after an event. -/
def record (s : Stats) : Event → Stats
  | .request latency => s.recordRequest latency
  | .streaming => s.recordStreaming
  | .blocked => s.recordBlocked
  | .bypassed => s.recordBypassed
  | .error => s.recordError
  | .reset => s.reset

/-- The counts after some events. -/
def run (events : List Event) : Stats := events.foldl record zero

@[simp] theorem run_append_singleton (events : List Event) (event : Event) :
    run (events ++ [event]) = (run events).record event := by
  simp [run]

/-- The latency of a request. -/
def Event.latency? : Event → Option Nat
  | request latency => some latency
  | _ => none

/-- The latencies that were recorded since the last reset. -/
def recorded (events : List Event) : List Nat :=
  (events.rtakeWhile (· ≠ .reset)).filterMap Event.latency?

theorem recorded_append_singleton (events : List Event) (event : Event) :
    recorded (events ++ [event]) =
      if event = .reset then [] else recorded events ++ event.latency?.toList := by
  rw [recorded, List.rtakeWhile_concat]
  by_cases h : event = .reset
  · simp [h]
  · rw [if_pos (by simpa using h), if_neg h, List.filterMap_append, recorded]
    cases event <;> rfl

/-- If there is one latency too many, the oldest goes. -/
theorem latest_eq_rtake {latencies : List Nat} (h : latencies.length ≤ sampleSize + 1) :
    latest latencies = latencies.rtake sampleSize := by
  rw [latest, List.rtake]
  split
  · have hone : latencies.length - sampleSize = 1 := by omega
    rw [hone, List.drop_one]
  · have hnone : latencies.length - sampleSize = 0 := by omega
    rw [hnone, List.drop_zero]

/-- With one more latency a full sample moves on by one. -/
theorem latest_rtake_append (latencies : List Nat) (latency : Nat) :
    latest (latencies.rtake sampleSize ++ [latency]) =
      (latencies ++ [latency]).rtake sampleSize := by
  rw [latest_eq_rtake, rtake_rtake_append]
  rw [List.length_append, List.length_singleton, length_rtake]
  omega

/-- After any events the newest of the recorded latencies are kept, and all of them were counted. -/
theorem latencies_run (events : List Event) :
    (run events).latencies = (recorded events).rtake sampleSize ∧
      (run events).requests = (recorded events).length := by
  induction events using List.reverseRecOn with
  | nil => exact ⟨rfl, rfl⟩
  | append_singleton events event ih =>
    obtain ⟨hlatencies, hrequests⟩ := ih
    rw [run_append_singleton, recorded_append_singleton]
    cases event with
    | request latency =>
      simp [record, recordRequest, Event.latency?, hlatencies, hrequests, latest_rtake_append]
    | reset => simp [record, reset, zero]
    | streaming => simp [record, recordStreaming, Event.latency?, hlatencies, hrequests]
    | blocked => simp [record, recordBlocked, Event.latency?, hlatencies, hrequests]
    | bypassed => simp [record, recordBypassed, Event.latency?, hlatencies, hrequests]
    | error => simp [record, recordError, Event.latency?, hlatencies, hrequests]

/-- After any events the kept latencies are the newest of those that were recorded since the last
reset, as many as the sample holds, and all of these are counted. As soon as there is one, the three
percentiles that are reported are percentiles of them in ascending order, each at a position inside
the sample; before that there are none. -/
theorem percentiles_run (events : List Event) :
    let s := run events
    s.latencies = (recorded events).rtake sampleSize ∧
      s.latencies.length = min (recorded events).length 1000 ∧
      s.requests = (recorded events).length ∧
      (s.latencies = [] →
        s.percentile 50 = none ∧ s.percentile 95 = none ∧ s.percentile 99 = none) ∧
      (s.latencies ≠ [] → (∀ percent, rank s.latencies.length percent < s.latencies.length) ∧
        ∃ p50 p95 p99, s.percentile 50 = some p50 ∧ s.percentile 95 = some p95 ∧
          s.percentile 99 = some p99 ∧ IsPercentile s.latencies 50 p50 ∧
          IsPercentile s.latencies 95 p95 ∧ IsPercentile s.latencies 99 p99 ∧
          p50 ≤ p95 ∧ p95 ≤ p99) := by
  intro s
  obtain ⟨hlatencies, hrequests⟩ := latencies_run events
  refine ⟨hlatencies, ?_, hrequests, fun hnone => ?_, fun hsome => ?_⟩
  · rw [hlatencies, length_rtake]
    rfl
  · exact ⟨percentile_of_nil hnone 50, percentile_of_nil hnone 95, percentile_of_nil hnone 99⟩
  · obtain ⟨p50, h50⟩ := exists_percentile hsome 50
    obtain ⟨p95, h95⟩ := exists_percentile hsome 95
    obtain ⟨p99, h99⟩ := exists_percentile hsome 99
    refine ⟨rank_lt (List.length_pos_iff_ne_nil.2 hsome), p50, p95, p99, h50, h95, h99, ?_⟩
    exact ⟨isPercentile_of_percentile (by decide) h50, isPercentile_of_percentile (by decide) h95,
      isPercentile_of_percentile (by decide) h99, percentile_mono (by decide) h50 h95,
      percentile_mono (by decide) h95 h99⟩

/-- Latencies before and after a reset, two of them equal. -/
def resetOnce : List Event :=
  [.request 9, .reset, .request 3, .error, .request 1, .request 3, .blocked, .request 2]

theorem percentiles_run_resetOnce :
    (run resetOnce).latencies = [3, 1, 3, 2] ∧ (run resetOnce).latencies ≠ [] ∧
      (∃ p50 p95 p99, (run resetOnce).percentile 50 = some p50 ∧
        (run resetOnce).percentile 95 = some p95 ∧ (run resetOnce).percentile 99 = some p99 ∧
        p50 = 3 ∧ p50 ≤ p95 ∧ p95 ≤ p99) ∧
      (run (resetOnce ++ [.reset])).latencies = [] ∧
      (run (resetOnce ++ [.reset])).percentile 99 = none := by
  have hkept : (run resetOnce).latencies = [3, 1, 3, 2] := rfl
  have hsome : (run resetOnce).latencies ≠ [] := by simp [hkept]
  have hnone : (run (resetOnce ++ [.reset])).latencies = [] := rfl
  have hranked : (run resetOnce).ranked = [1, 2, 3, 3] :=
    ((run resetOnce).ranked_perm.trans (by decide)).eq_of_sortedLE (sortedLE_ranked _) (by decide)
  have hmedian : (run resetOnce).percentile 50 = some 3 := congrArg (·[2]?) hranked
  obtain ⟨-, -, -, -, hpercentiles⟩ := percentiles_run resetOnce
  obtain ⟨-, p50, p95, p99, h50, h95, h99, -, -, -, hle, hle'⟩ := hpercentiles hsome
  obtain ⟨-, -, -, hempty, -⟩ := percentiles_run (resetOnce ++ [.reset])
  exact ⟨hkept, hsome, ⟨p50, p95, p99, h50, h95, h99, Option.some.inj (h50.symm.trans hmedian), hle,
    hle'⟩, hnone, (hempty hnone).2.2⟩

end Stats

end ModerationGateway.Gateway
