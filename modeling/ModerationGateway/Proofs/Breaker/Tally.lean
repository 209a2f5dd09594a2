import ModerationGateway.Proofs.Breaker.Service

/-!
# What a circuit breaker counts, and when it opens

Beside a breaker in service a journal is kept of what it meets while it is closed. The counters can
be read off the journal, and so can the moment at which the breaker opens.

* `Note`, `Journal.lastReset`, `Journal.current`: an entry, when the counts last began anew, and the
  entries since;
* `Journal.requests`, `Journal.failures`: how many outcomes are among these, and how many of them
  are failures;
* `Journal.Tallies`: counters that agree with a journal, with one lemma for each kind of entry;
* `IsDue`: the outcomes are enough to open the breaker;
* `Chronicle`: a breaker in service with its journal, newest entry first;
* `Chronicle.IsKept`, `Chronicle.isKept_run`: the invariant of a chronicle, and that it holds along
  every run;
* `Chronicle.isExact_run`: what the counters are, that they are about the window only, and that the
  breaker leaves the closed state exactly when an outcome makes it due.
-/

namespace ModerationGateway.Breaker

open Machine Service

variable {ε α : Type}

/-! ### Journals -/

/-- What is noted: a call is let in by a closed breaker, the outcome of a call that was no trial is
recorded by a closed breaker, a trial succeeds and closes the breaker. -/
inductive Note where
  | entered (time : Nat)
  | recorded (time : Nat) (success : Bool)
  | closed (time : Nat)
  deriving DecidableEq, Repr

/-- When it was noted. -/
def Note.time : Note → Nat
  | .entered t => t
  | .recorded t _ => t
  | .closed t => t

/-- The counts begin anew: a trial has succeeded, or it is noticed that the window which began at a
given time is over. -/
def Note.Resets (window since : Nat) : Note → Prop
  | .entered t => window ≤ t - since
  | .recorded t _ => window ≤ t - since
  | .closed _ => True

instance (window since : Nat) : (note : Note) → Decidable (note.Resets window since)
  | .entered t => inferInstanceAs (Decidable (window ≤ t - since))
  | .recorded t _ => inferInstanceAs (Decidable (window ≤ t - since))
  | .closed _ => inferInstanceAs (Decidable True)

/-- The outcome that is noted, with its time. -/
def Note.outcome? : Note → Option (Nat × Bool)
  | .entered _ => none
  | .recorded t success => some (t, success)
  | .closed _ => none

theorem Note.time_of_outcome? {note : Note} {o : Nat × Bool} (h : note.outcome? = some o) :
    o.1 = note.time := by
  cases note with
  | entered t => contradiction
  | recorded t success =>
    cases h
    rfl
  | closed t => contradiction

namespace Journal

/-- When the counts last began anew, in a journal with the newest entry first. -/
def lastReset (window start : Nat) : List Note → Nat
  | [] => start
  | note :: notes =>
    if note.Resets window (lastReset window start notes) then note.time
    else lastReset window start notes

/-- The entries since then. -/
def current (window start : Nat) : List Note → List Note
  | [] => []
  | note :: notes =>
    if note.Resets window (lastReset window start notes) then [note]
    else note :: current window start notes

/-- The outcomes recorded since the counts last began anew. -/
def outcomes (window start : Nat) (notes : List Note) : List (Nat × Bool) :=
  (current window start notes).filterMap Note.outcome?

/-- How many these are. -/
def requests (window start : Nat) (notes : List Note) : Nat :=
  (outcomes window start notes).length

/-- How many of them are failures. -/
def failures (window start : Nat) (notes : List Note) : Nat :=
  (outcomes window start notes).countP fun o => !o.2

variable {window start : Nat} {note : Note} {notes : List Note}

theorem lastReset_of_resets (h : note.Resets window (lastReset window start notes)) :
    lastReset window start (note :: notes) = note.time := by
  simp [lastReset, h]

theorem lastReset_of_not_resets (h : ¬ note.Resets window (lastReset window start notes)) :
    lastReset window start (note :: notes) = lastReset window start notes := by
  simp [lastReset, h]

theorem outcomes_of_resets (h : note.Resets window (lastReset window start notes)) :
    outcomes window start (note :: notes) = note.outcome?.toList := by
  simp only [outcomes, current, if_pos h]
  cases note <;> rfl

theorem outcomes_of_not_resets (h : ¬ note.Resets window (lastReset window start notes)) :
    outcomes window start (note :: notes) =
      note.outcome?.toList ++ outcomes window start notes := by
  simp only [outcomes, current, if_neg h]
  cases note <;> rfl

/-- What is counted is the newest part of the journal. -/
theorem current_isPrefixOf (window start : Nat) (notes : List Note) :
    current window start notes <+: notes := by
  induction notes with
  | nil => exact List.prefix_rfl
  | cons note notes ih =>
    unfold current
    split
    · exact List.cons_prefix_cons.2 ⟨rfl, List.nil_prefix⟩
    · exact List.cons_prefix_cons.2 ⟨rfl, ih⟩

/-- The counts did not begin anew later than all there is. -/
theorem lastReset_le {t : Nat} (hstart : start ≤ t) (hnotes : ∀ n ∈ notes, n.time ≤ t) :
    lastReset window start notes ≤ t := by
  induction notes with
  | nil => exact hstart
  | cons note notes ih =>
    rw [List.forall_mem_cons] at hnotes
    by_cases h : note.Resets window (lastReset window start notes)
    · rw [lastReset_of_resets h]
      exact hnotes.1
    · rw [lastReset_of_not_resets h]
      exact ih hnotes.2

/-- The entries of a journal are in order, and none is from before the start. -/
structure IsOrdered (start : Nat) (notes : List Note) : Prop where
  newest_first : notes.Pairwise fun later earlier => earlier.time ≤ later.time
  start_le : ∀ n ∈ notes, start ≤ n.time

theorem IsOrdered.of_suffix {older : List Note} (h : IsOrdered start notes)
    (holder : older <:+ notes) : IsOrdered start older :=
  ⟨h.newest_first.sublist holder.sublist, fun n hn => h.start_le n (holder.subset hn)⟩

theorem IsOrdered.cons (h : IsOrdered start notes) (hstart : start ≤ note.time)
    (hnotes : ∀ n ∈ notes, n.time ≤ note.time) : IsOrdered start (note :: notes) :=
  ⟨List.pairwise_cons.2 ⟨hnotes, h.newest_first⟩, List.forall_mem_cons.2 ⟨hstart, h.start_le⟩⟩

/-- What was recorded since the counts last began anew was not recorded before. -/
theorem lastReset_le_of_mem_outcomes (h : IsOrdered start notes) {o : Nat × Bool}
    (ho : o ∈ outcomes window start notes) : lastReset window start notes ≤ o.1 := by
  induction notes with
  | nil => simp [outcomes, current] at ho
  | cons note notes ih =>
    have hnoted (hmem : o ∈ note.outcome?.toList) : o.1 = note.time :=
      Note.time_of_outcome? (Option.mem_toList.1 hmem)
    by_cases hresets : note.Resets window (lastReset window start notes)
    · rw [outcomes_of_resets hresets] at ho
      exact Nat.le_of_eq ((lastReset_of_resets hresets).trans (hnoted ho).symm)
    · rw [outcomes_of_not_resets hresets, List.mem_append] at ho
      rw [lastReset_of_not_resets hresets]
      rcases ho with ho | ho
      · rw [hnoted ho]
        exact lastReset_le (h.start_le note List.mem_cons_self)
          (List.pairwise_cons.1 h.newest_first).1
      · exact ih (h.of_suffix (List.suffix_cons note notes)) ho

theorem le_of_mem_outcomes {t : Nat} (hnotes : ∀ n ∈ notes, n.time ≤ t) {o : Nat × Bool}
    (ho : o ∈ outcomes window start notes) : o.1 ≤ t := by
  obtain ⟨n, hn, hnote⟩ := List.mem_filterMap.1 ho
  rw [Note.time_of_outcome? hnote]
  exact hnotes n ((current_isPrefixOf window start notes).subset hn)

/-- An outcome that is recorded is counted with those of less than a window before it. -/
theorem recent_of_isOrdered {t : Nat} {success : Bool} (hwindow : 0 < window)
    (h : IsOrdered start (.recorded t success :: notes)) {o : Nat × Bool}
    (ho : o ∈ outcomes window start (.recorded t success :: notes)) :
    o.1 ≤ t ∧ t < o.1 + window := by
  have hnewest : ∀ n ∈ notes, n.time ≤ t := (List.pairwise_cons.1 h.newest_first).1
  refine ⟨le_of_mem_outcomes (List.forall_mem_cons.2 ⟨Nat.le_refl t, hnewest⟩) ho, ?_⟩
  by_cases hresets : (Note.recorded t success).Resets window (lastReset window start notes)
  · -- the window was over, and the outcome is the first of a new one
    rw [outcomes_of_resets hresets] at ho
    obtain rfl : o = (t, success) := by simpa [Note.outcome?] using ho
    omega
  · have hsince := lastReset_le_of_mem_outcomes h ho
    rw [lastReset_of_not_resets hresets] at hsince
    have hin : ¬ window ≤ t - lastReset window start notes := hresets
    omega

/-! ### Counters -/

/-- Counters that agree with a journal. -/
structure Tallies (window start : Nat) (k : Counts) (notes : List Note) : Prop where
  since : k.since = lastReset window start notes
  requests : k.requests = Journal.requests window start notes
  errors : k.errors = failures window start notes

theorem tallies_nil (window start : Nat) : Tallies window start (.fresh start) [] :=
  ⟨rfl, rfl, rfl⟩

/-- An entry with which the counts begin anew. -/
theorem tallies_of_resets (h : note.Resets window (lastReset window start notes)) :
    Tallies window start
      ⟨note.outcome?.toList.length, note.outcome?.toList.countP fun o => !o.2, note.time⟩
      (note :: notes) := by
  constructor
  · exact (lastReset_of_resets h).symm
  · rw [requests, outcomes_of_resets h]
  · rw [failures, outcomes_of_resets h]

/-- An entry that is added to what is counted. -/
theorem tallies_of_not_resets (h : ¬ note.Resets window (lastReset window start notes))
    {k : Counts} (hk : Tallies window start k notes) :
    Tallies window start
      ⟨note.outcome?.toList.length + k.requests,
        (note.outcome?.toList.countP fun o => !o.2) + k.errors, k.since⟩
      (note :: notes) := by
  constructor
  · exact hk.since.trans (lastReset_of_not_resets h).symm
  · rw [requests, outcomes_of_not_resets h, List.length_append, hk.requests, requests]
  · rw [failures, outcomes_of_not_resets h, List.countP_append, hk.errors, failures]

theorem tallies_closed (window start : Nat) (notes : List Note) (now : Nat) :
    Tallies window start (.fresh now) (.closed now :: notes) := by
  have hresets : (Note.closed now).Resets window (lastReset window start notes) := trivial
  exact tallies_of_resets hresets

variable {m : Machine} {s : BreakerSettings}

/-- A call is let in: if the window is over, that is noticed. -/
theorem tallies_entered (h : Tallies s.rollingWindowMs.toNat start m.counts notes) (now : Nat) :
    Tallies s.rollingWindowMs.toNat start (m.roll s now).counts (.entered now :: notes) := by
  unfold roll
  rw [h.since]
  by_cases hresets : (Note.entered now).Resets s.rollingWindowMs.toNat
      (lastReset s.rollingWindowMs.toNat start notes)
  · rw [if_pos (show _ ≤ _ from hresets)]
    exact tallies_of_resets hresets
  · rw [if_neg (show ¬ _ ≤ _ from hresets)]
    simpa [Note.outcome?] using tallies_of_not_resets hresets h

/-- An outcome is recorded: if the window is over, that is noticed first. -/
theorem tallies_recorded (h : Tallies s.rollingWindowMs.toNat start m.counts notes)
    (success : Bool) (now : Nat) :
    Tallies s.rollingWindowMs.toNat start (m.counted s success now).counts
      (.recorded now success :: notes) := by
  unfold counted roll
  rw [h.since]
  by_cases hresets : (Note.recorded now success).Resets s.rollingWindowMs.toNat
      (lastReset s.rollingWindowMs.toNat start notes)
  · rw [if_pos (show _ ≤ _ from hresets)]
    have hcounts := tallies_of_resets hresets
    cases success <;> exact hcounts
  · rw [if_neg (show ¬ _ ≤ _ from hresets)]
    have hcounts := tallies_of_not_resets hresets h
    cases success <;> simpa [Note.outcome?, Counts.add, Nat.add_comm 1] using hcounts

end Journal

open Journal

variable {m : Machine} {s : BreakerSettings} {start : Nat}

/-- So many outcomes, of which so many are failures, are enough to open the breaker. -/
def IsDue (s : BreakerSettings) (requests failures : Nat) : Prop :=
  s.enabled = true ∧ max 1 s.requestVolumeThreshold.toNat ≤ requests ∧
    s.errorThresholdPercentage.toNat ≤ 100 * failures / requests

theorem shouldTrip_iff (s : BreakerSettings) (k : Counts) :
    (s.enabled && shouldTrip s k) = true ↔ IsDue s k.requests k.errors := by
  have hmax : max 1 s.requestVolumeThreshold.toNat ≤ k.requests ↔
      0 < k.requests ∧ s.requestVolumeThreshold.toNat ≤ k.requests := by omega
  simp only [shouldTrip, IsDue, hmax, Bool.and_eq_true, decide_eq_true_eq, Nat.mul_comm 100]

/-- Beginning anew makes no breaker due. -/
theorem not_isDue_roll (h : ¬ IsDue s m.counts.requests m.counts.errors) (now : Nat) :
    ¬ IsDue s (m.roll s now).counts.requests (m.roll s now).counts.errors := by
  unfold roll
  split
  · rintro ⟨-, hrequests, -⟩
    simp [Counts.fresh] at hrequests
  · exact h

/-- After an outcome is recorded the counts include it, and the breaker is closed unless it is
due. -/
theorem record_of_closed (hclosed : m.state = .closed) (s : BreakerSettings) (success : Bool)
    (now : Nat) :
    let k := (m.counted s success now).counts
    (m.record s .normal success now).counts = k ∧
      (IsDue s k.requests k.errors → (m.record s .normal success now).state = .opened) ∧
      (¬ IsDue s k.requests k.errors → (m.record s .normal success now).state = .closed) := by
  intro k
  obtain ⟨hcounts, hstate⟩ := record_normal_of_closed hclosed s success now
  rw [hstate, ← shouldTrip_iff]
  exact ⟨hcounts, fun hdue => if_pos hdue, fun hdue => if_neg hdue⟩

/-! ### Chronicles -/

/-- A breaker in service with its journal. -/
structure Chronicle where
  service : Service
  notes : List Note

namespace Chronicle

/-- The state of the breaker. -/
def state (c : Chronicle) : CircuitState := c.service.machine.state

/-- What is noted at a turn. -/
def note? (u : Service) (turn : Turn ε α) : Option Note :=
  match u.ending? turn with
  | some e =>
    match e.admission with
    | .normal => if u.machine.state = .closed then some (.recorded u.now e.success) else none
    | .trial => if e.success then some (.closed u.now) else none
  | none =>
    match turn with
    | .come => if u.machine.state = .closed then some (.entered u.now) else none
    | _ => none

/-- A breaker that nobody has called. -/
def fresh (name : String) (s : BreakerSettings) (start : Nat) : Chronicle :=
  ⟨.fresh name s start, []⟩

/-- A turn is taken and noted. -/
def step (c : Chronicle) (turn : Turn ε α) : Chronicle :=
  ⟨c.service.step turn, (note? c.service turn).toList ++ c.notes⟩

/-- Turns one after the other. -/
def run (c : Chronicle) (turns : List (Turn ε α)) : Chronicle := turns.foldl step c

/-- Keeping a journal does not change the run. -/
theorem service_run (c : Chronicle) (turns : List (Turn ε α)) :
    (c.run turns).service = c.service.run turns := by
  induction turns generalizing c with
  | nil => rfl
  | cons turn turns ih => exact ih (c.step turn)

/-- All that a turn has to do with the counts: nothing, and the breaker is closed after it if it was
before; or one of the three entries is noted. -/
inductive Entry (u : Service) (turn : Turn ε α) : Prop where
  | none
      (hnote : note? u turn = none)
      (hcounts : (u.act turn).machine.counts = u.machine.counts)
      (hstate : (u.act turn).machine.state = .closed ↔ u.machine.state = .closed)
  | entered
      (hnote : note? u turn = some (.entered u.now))
      (hclosed : u.machine.state = .closed)
      (hmachine : (u.act turn).machine = u.machine.roll u.settings u.now)
  | recorded (success : Bool)
      (hnote : note? u turn = some (.recorded u.now success))
      (hclosed : u.machine.state = .closed)
      (hmachine : (u.act turn).machine = u.machine.record u.settings .normal success u.now)
  | closed
      (hnote : note? u turn = some (.closed u.now))
      (hclosed : u.machine.state ≠ .closed)
      (hmachine : (u.act turn).machine = .fresh u.now)

/-- There is nothing else that a turn can do to the counts of a sound breaker. -/
theorem entry {u : Service} (h : Service.IsSound s u) (turn : Turn ε α) : Entry u turn := by
  cases u.visit turn with
  | ended e c hending hget hadmission _ hmachine _ =>
    cases ha : e.admission with
    | normal =>
      rw [ha] at hmachine
      by_cases hclosed : u.machine.state = .closed
      · exact .recorded e.success (by simp [note?, hending, ha, hclosed]) hclosed hmachine
      · rw [record_normal_of_ne_closed hclosed] at hmachine
        exact .none (by simp [note?, hending, ha, hclosed]) (by rw [hmachine]) (by rw [hmachine])
    | trial =>
      -- a live trial holds the breaker half open, so it was not closed before
      have hhalf := h.state_of_trial hget (hadmission.trans ha)
      have hopen : u.machine.state ≠ .closed := by simp [hhalf]
      rw [ha, record_trial] at hmachine
      by_cases hsuccess : e.success = true
      · rw [if_pos hsuccess] at hmachine
        exact .closed (by simp [note?, hending, ha, hsuccess]) hopen hmachine
      · rw [if_neg hsuccess] at hmachine
        exact .none (by simp [note?, hending, ha, hsuccess]) (by rw [hmachine]; rfl)
          (by simp [hmachine, hopen])
  | admitted m a hcome henter _ hmachine _ =>
    subst hcome
    rcases enter_cases henter with ⟨hclosed, rfl, -⟩ | ⟨hopen, -, rfl, -⟩ | ⟨hhalf, -, rfl, -⟩
    · exact .entered (by simp [note?, ending?, hclosed]) hclosed hmachine
    · exact .none (by simp [note?, ending?, hopen]) (by rw [hmachine]) (by simp [hmachine, hopen])
    · exact .none (by simp [note?, ending?, hhalf]) (by rw [hmachine]) (by simp [hmachine, hhalf])
  | abandoned i c hending hcome _ _ hmachine _ =>
    have hnote : note? u turn = none := by
      unfold note?
      rw [hending]
      cases turn with
      | come => exact absurd rfl hcome
      | _ => rfl
    refine .none hnote ?_ ?_ <;> rw [hmachine] <;> cases c.admission <;> rfl
  | nothing hending hcome _ hmachine _ =>
    have hnote : note? u turn = none := by
      unfold note?
      rw [hending]
      cases turn with
      | come =>
        have hopen : u.machine.state ≠ .closed := by
          intro hclosed
          have henter := hcome rfl
          simp [enter, hclosed] at henter
        simp [hopen]
      | _ => rfl
    exact .none hnote (by rw [hmachine]) (by rw [hmachine])

/-- What is known of a chronicle at every moment. -/
structure IsKept (s : BreakerSettings) (start : Nat) (c : Chronicle) : Prop where
  sound : Service.IsSound s c.service
  tallies : Tallies s.rollingWindowMs.toNat start c.service.machine.counts c.notes
  ordered : IsOrdered start c.notes
  start_le_now : start ≤ c.service.now
  le_now : ∀ n ∈ c.notes, n.time ≤ c.service.now
  not_isDue : c.state = .closed →
    ¬ IsDue s c.service.machine.counts.requests c.service.machine.counts.errors

theorem isKept_fresh (name : String) (s : BreakerSettings) (start : Nat) :
    IsKept s start (fresh name s start) where
  sound := isSound_fresh name s start
  tallies := tallies_nil _ start
  ordered := ⟨.nil, by simp [fresh]⟩
  start_le_now := Nat.le_refl start
  le_now := by simp [fresh]
  not_isDue := by
    rintro - ⟨-, hrequests, -⟩
    have hnone : (fresh name s start).service.machine.counts.requests = 0 := rfl
    omega

variable {c : Chronicle}

/-- A turn at which something is noted keeps the chronicle if the new counts agree with it. -/
theorem IsKept.step_of_note (h : IsKept s start c) {turn : Turn ε α} {note : Note}
    (hnote : note? c.service turn = some note) (htime : note.time = c.service.now)
    (htallies : Tallies s.rollingWindowMs.toNat start (c.service.act turn).machine.counts
      (note :: c.notes))
    (hdue : (c.service.act turn).machine.state = .closed →
      ¬ IsDue s (c.service.act turn).machine.counts.requests
        (c.service.act turn).machine.counts.errors) :
    IsKept s start (c.step turn) := by
  have hnotes : (c.step turn).notes = note :: c.notes := by simp [Chronicle.step, hnote]
  have hnow : c.service.now ≤ (c.service.step turn).now := c.service.now_le_act turn
  constructor
  · exact h.sound.step turn
  · rw [hnotes]
    exact htallies
  · rw [hnotes]
    exact h.ordered.cons (htime ▸ h.start_le_now) (htime ▸ h.le_now)
  · exact Nat.le_trans h.start_le_now hnow
  · rw [hnotes, List.forall_mem_cons]
    exact ⟨htime ▸ hnow, fun n hn => Nat.le_trans (h.le_now n hn) hnow⟩
  · exact hdue

theorem IsKept.step (h : IsKept s start c) (turn : Turn ε α) : IsKept s start (c.step turn) := by
  have hsettings : c.service.settings = s := h.sound.settings
  cases entry h.sound turn with
  | none hnote hcounts hstate =>
    have hnotes : (c.step turn).notes = c.notes := by simp [Chronicle.step, hnote]
    have hnow : c.service.now ≤ (c.service.step turn).now := c.service.now_le_act turn
    constructor
    · exact h.sound.step turn
    · rw [hnotes]
      exact hcounts ▸ h.tallies
    · rw [hnotes]
      exact h.ordered
    · exact Nat.le_trans h.start_le_now hnow
    · rw [hnotes]
      exact fun n hn => Nat.le_trans (h.le_now n hn) hnow
    · intro hclosed
      exact hcounts ▸ h.not_isDue (hstate.1 hclosed)
  | entered hnote hclosed hmachine =>
    rw [hsettings] at hmachine
    apply h.step_of_note hnote rfl
    · rw [hmachine]
      exact tallies_entered h.tallies c.service.now
    · intro _
      rw [hmachine]
      exact not_isDue_roll (h.not_isDue hclosed) c.service.now
  | recorded success hnote hclosed hmachine =>
    rw [hsettings] at hmachine
    obtain ⟨hcounts, hopens, -⟩ := record_of_closed hclosed s success c.service.now
    apply h.step_of_note hnote rfl
    · rw [hmachine, hcounts]
      exact tallies_recorded h.tallies success c.service.now
    · intro hstate hdue
      rw [hmachine] at hstate
      rw [hmachine, hcounts] at hdue
      rw [hopens hdue] at hstate
      contradiction
  | closed hnote _ hmachine =>
    apply h.step_of_note hnote rfl
    · rw [hmachine]
      exact tallies_closed _ start c.notes c.service.now
    · rw [hmachine]
      rintro - ⟨-, hrequests, -⟩
      simp [Machine.fresh, Counts.fresh] at hrequests

/-- Along every run the chronicle is kept. -/
theorem isKept_run (name : String) (s : BreakerSettings) (start : Nat)
    (turns : List (Turn ε α)) : IsKept s start ((fresh name s start).run turns) := by
  have hrun : ∀ c : Chronicle, IsKept s start c → IsKept s start (c.run turns) := by
    induction turns with
    | nil => exact fun c h => h
    | cons turn turns ih => exact fun c h => ih (c.step turn) (h.step turn)
  exact hrun _ (isKept_fresh name s start)

/-- A closed breaker stays so, or opens. It opens when the outcome of a call is recorded with which
it is due, and only then. -/
theorem IsKept.opened_iff (h : IsKept s start c) (hclosed : c.state = .closed)
    (turn : Turn ε α) :
    ((c.step turn).state = .closed ∨ (c.step turn).state = .opened) ∧
      ((c.step turn).state = .opened ↔
        ∃ success, note? c.service turn = some (.recorded c.service.now success) ∧
          IsDue s (requests s.rollingWindowMs.toNat start (c.step turn).notes)
            (failures s.rollingWindowMs.toNat start (c.step turn).notes)) := by
  have hstep := h.step turn
  rw [← hstep.tallies.requests, ← hstep.tallies.errors]
  show ((c.service.act turn).machine.state = _ ∨ (c.service.act turn).machine.state = _) ∧
    ((c.service.act turn).machine.state = _ ↔ ∃ success, _ ∧
      IsDue s (c.service.act turn).machine.counts.requests
        (c.service.act turn).machine.counts.errors)
  cases entry h.sound turn with
  | none hnote _ hstate =>
    have hafter := hstate.2 hclosed
    simp [hnote, hafter]
  | entered hnote hclosed hmachine =>
    have hafter : (c.service.act turn).machine.state = .closed := by
      rw [hmachine, state_roll]
      exact hclosed
    simp [hnote, hafter]
  | recorded success hnote _ hmachine =>
    rw [h.sound.settings] at hmachine
    obtain ⟨hcounts, hopens, hstays⟩ := record_of_closed hclosed s success c.service.now
    rw [hmachine, hcounts]
    by_cases hdue : IsDue s (c.service.machine.counted s success c.service.now).counts.requests
        (c.service.machine.counted s success c.service.now).counts.errors
    · rw [hopens hdue]
      exact ⟨.inr rfl, fun _ => ⟨success, hnote, hdue⟩, fun _ => rfl⟩
    · rw [hstays hdue]
      refine ⟨.inl rfl, fun hopened => by contradiction, ?_⟩
      rintro ⟨_, _, hdue'⟩
      exact absurd hdue' hdue
  | closed _ hopen _ => exact absurd hclosed hopen

/-- What the counters of a breaker are, and when it opens. -/
structure IsExact (ε α : Type) (s : BreakerSettings) (start : Nat) (c : Chronicle) : Prop where
  /-- The counters are the numbers of outcomes, and of failures, recorded since they last began
  anew. -/
  requests : c.service.machine.counts.requests =
    Journal.requests s.rollingWindowMs.toNat start c.notes
  errors : c.service.machine.counts.errors = failures s.rollingWindowMs.toNat start c.notes
  /-- Whenever an outcome was recorded, all that were counted were less than a window old. -/
  recent : ∀ t success older, .recorded t success :: older <:+ c.notes →
    ∀ o ∈ outcomes s.rollingWindowMs.toNat start (.recorded t success :: older),
      o.1 ≤ t ∧ t < o.1 + s.rollingWindowMs.toNat
  /-- A closed breaker is not due. -/
  not_isDue : c.state = .closed →
    ¬ IsDue s (Journal.requests s.rollingWindowMs.toNat start c.notes)
      (failures s.rollingWindowMs.toNat start c.notes)
  /-- The outcome of a call opens a closed breaker exactly if it is due with it. -/
  opened_iff : c.state = .closed → ∀ turn : Turn ε α,
    (c.step turn).state = .opened ↔
      ∃ success, note? c.service turn = some (.recorded c.service.now success) ∧
        IsDue s (Journal.requests s.rollingWindowMs.toNat start (c.step turn).notes)
          (failures s.rollingWindowMs.toNat start (c.step turn).notes)
  /-- There is no other way out of the closed state. -/
  closed_or_opened : c.state = .closed → ∀ turn : Turn ε α,
    (c.step turn).state = .closed ∨ (c.step turn).state = .opened

/-- A journal is kept of a run in service. At every moment of every run the counters of a breaker
are exact, and it opens exactly when it is due. -/
theorem isExact_run (name : String) (s : BreakerSettings) (start : Nat)
    (turns : List (Turn ε α)) (hwindow : 0 < s.rollingWindowMs.toNat) :
    let c := (fresh name s start).run turns
    c.service = (Service.fresh name s start).run turns ∧ IsExact ε α s start c := by
  intro c
  have h : IsKept s start c := isKept_run name s start turns
  refine ⟨service_run (fresh name s start) turns, ?_⟩
  constructor
  · exact h.tallies.requests
  · exact h.tallies.errors
  · intro t success older holder o ho
    exact recent_of_isOrdered hwindow (h.ordered.of_suffix holder) ho
  · rw [← h.tallies.requests, ← h.tallies.errors]
    exact h.not_isDue
  · exact fun hclosed turn => (h.opened_iff hclosed turn).2
  · exact fun hclosed turn => (h.opened_iff hclosed turn).1

/-- A breaker that opens when half of at least two calls fail. -/
def halving : BreakerSettings :=
  { BreakerSettings.standard with requestVolumeThreshold := 2, errorThresholdPercentage := 50 }

/-- A call succeeds, and another one comes and is running. -/
def oneOfTwo : List (Turn Unit Unit) :=
  [.come, .acquire 0, .finish 0 (.ok ()), .release, .wait 9999, .come, .acquire 0]

/-- The failure of the second call, just before the window is over, opens the breaker. -/
theorem isExact_run_oneOfTwo :
    let c := (fresh "b" halving 0).run oneOfTwo
    0 < halving.rollingWindowMs.toNat ∧ c.state = .closed ∧
      c.notes = [.entered 9999, .recorded 0 true, .entered 0] ∧
      IsExact Unit Unit halving 0 c ∧
      (c.step (.finish 0 (.error (.inner ())) : Turn Unit Unit)).state = .opened := by
  intro c
  have hwindow : 0 < halving.rollingWindowMs.toNat := by decide
  have hexact := (isExact_run "b" halving 0 oneOfTwo hwindow).2
  exact ⟨hwindow, by decide, by decide, hexact, by decide⟩

end Chronicle

end ModerationGateway.Breaker
