import ModerationGateway.Breaker.Timeline
import ModerationGateway.Proofs.Breaker.Traffic

/-!
# Timelines are histories

A timeline knows when the work of its calls is over and settles them in that order. Everything it
does with its breaker is a sequence of visits to the machine with waits between them, so that what
holds along every history holds along every timeline.

* `Traffic.Reaches`: some history leads from one state to another;
* `reaches_start`: a call that starts visits the machine once, or twice if it finds no permit;
* `Timeline.traffic`, `Timeline.Becomes`: the breaker of a timeline, in use, and its histories;
* `Timeline.Act`, `Timeline.act`, `Timeline.actAll`: what is done with a timeline;
* `Timeline.becomes_actAll`, `Timeline.reaches_actAll`: all of it is a history of the breaker.
-/

namespace ModerationGateway.Breaker

variable {ε α : Type}

namespace Traffic

variable {s : BreakerSettings} {t t' t'' : Traffic}

/-- Some history leads from one state to another. -/
def Reaches (s : BreakerSettings) (t t' : Traffic) : Prop := ∃ moves, run s t moves = t'

theorem Reaches.refl (s : BreakerSettings) (t : Traffic) : Reaches s t t := ⟨[], rfl⟩

theorem Reaches.trans (h : Reaches s t t') (h' : Reaches s t' t'') : Reaches s t t'' := by
  obtain ⟨moves, rfl⟩ := h
  obtain ⟨more, rfl⟩ := h'
  exact ⟨moves ++ more, run_append s t moves more⟩

theorem Reaches.isSound (h : Reaches s t t') (ht : IsSound s t) : IsSound s t' := by
  obtain ⟨moves, rfl⟩ := h
  exact ht.run moves

theorem reaches_wait {time : Nat} (h : t.now ≤ time) : Reaches s t { t with now := time } := by
  refine ⟨[.wait (time - t.now)], ?_⟩
  simp [run, step, Nat.add_sub_cancel' h]

/-- A call that is over leaves the other live calls as they are. -/
theorem step_settle (s : BreakerSettings) (now : Nat) (m : Machine) (before after : List Admission)
    (a : Admission) (success : Bool) :
    step s ⟨now, m, before ++ a :: after⟩ (.settle before.length success) =
      ⟨now, m.record s a success now, before ++ after⟩ := by
  simp [step, List.eraseIdx_append_of_length_le]

theorem step_abandon (s : BreakerSettings) (now : Nat) (m : Machine) (before after : List Admission)
    (a : Admission) :
    step s ⟨now, m, before ++ a :: after⟩ (.abandon before.length) =
      ⟨now, m.abandon a, before ++ after⟩ := by
  simp [step, List.eraseIdx_append_of_length_le]

end Traffic

open Traffic

/-- How a call that starts was let in, if its work runs. -/
def Start.live : Start → List Admission
  | .running a => [a]
  | .refused => []
  | .rejected => []

/-- A call that starts visits the machine when it comes, and a second time if it finds no permit. -/
theorem reaches_start (b : CircuitBreaker) (now : Nat) (live : List Admission) :
    Reaches b.settings ⟨now, b.machine, live⟩
      ⟨now, (b.start now).1.machine, live ++ (b.start now).2.live⟩ := by
  unfold CircuitBreaker.start
  cases h : b.machine.enter b.settings now with
  | none => simpa [Start.live] using Reaches.refl _ _
  | some x =>
    obtain ⟨m, a⟩ := x
    have hcome : run b.settings ⟨now, b.machine, live⟩ [.enter] = ⟨now, m, live ++ [a]⟩ := by
      simp [run, step, h]
    by_cases hpermit : b.available = 0
    · -- the call was let in and is over with a failure before anything else can happen
      refine ⟨[.enter, .settle live.length false], ?_⟩
      have hover := step_settle b.settings now m live [] a false
      rw [List.append_nil] at hover
      simp only [hpermit, if_true, Start.live, List.append_nil]
      exact (congrArg (step b.settings · _) hcome).trans hover
    · exact ⟨[.enter], by simpa [hpermit, Start.live] using hcome⟩

namespace Timeline

/-- The breaker of a timeline, in use. -/
def traffic (t : Timeline ε α) : Traffic :=
  ⟨t.now, t.breaker.machine, t.running.map (·.admission)⟩

/-- A timeline has become another one by visits and waits, under the same settings. -/
def Becomes (t t' : Timeline ε α) : Prop :=
  Reaches t.breaker.settings t.traffic t'.traffic ∧ t'.breaker.settings = t.breaker.settings

theorem Becomes.refl (t : Timeline ε α) : Becomes t t := ⟨Reaches.refl _ _, rfl⟩

theorem Becomes.trans {t t' t'' : Timeline ε α} (h : Becomes t t') (h' : Becomes t' t'') :
    Becomes t t'' := by
  obtain ⟨hreaches, hsettings⟩ := h
  obtain ⟨hreaches', hsettings'⟩ := h'
  rw [hsettings] at hreaches' hsettings'
  exact ⟨hreaches.trans hreaches', hsettings'⟩

theorem becomes_launch (t : Timeline ε α) (id : String) (w : Work ε α) :
    Becomes t (t.launch id w).1 := by
  have hreaches := reaches_start t.breaker t.now (t.running.map (·.admission))
  have hsettings := t.breaker.settings_start t.now
  cases hstart : t.breaker.start t.now with
  | mk b outcome =>
    rw [hstart] at hreaches hsettings
    refine ⟨?_, ?_⟩
    · cases outcome <;> simpa [launch, hstart, traffic, Start.live] using hreaches
    · cases outcome <;> simpa [launch, hstart] using hsettings

/-- The call that is over earliest is the first one of its name and time, so that settling it
takes out no other. -/
theorem eraseP_earliest? {rs : List (Running ε α)} {r : Running ε α} (h : earliest? rs = some r) :
    ∃ before after, rs = before ++ r :: after ∧
      (rs.eraseP fun other => other.id == r.id && other.endsAt == r.endsAt) = before ++ after := by
  induction rs generalizing r with
  | nil => simp [earliest?] at h
  | cons first rs ih =>
    rw [earliest?] at h
    split at h
    next =>
      cases h
      exact ⟨[], rs, rfl, by simp⟩
    next other hother =>
      split at h
      next =>
        cases h
        exact ⟨[], rs, rfl, by simp⟩
      next hlater =>
        cases h
        obtain ⟨before, after, hrs, herase⟩ := ih hother
        have hne : first.endsAt ≠ r.endsAt := fun heq => hlater (Nat.le_of_eq heq)
        refine ⟨first :: before, after, by rw [hrs]; rfl, ?_⟩
        rw [List.eraseP_cons_of_neg (by simp [hne]), herase]
        rfl

theorem becomes_settle {t : Timeline ε α} {r : Running ε α} (h : earliest? t.running = some r) :
    Becomes t (t.settle r).1 := by
  obtain ⟨before, after, hrunning, herase⟩ := eraseP_earliest? h
  have hover := step_settle t.breaker.settings (max t.now r.endsAt) t.breaker.machine
    (before.map (·.admission)) (after.map (·.admission)) r.admission r.result.isOk
  have htraffic : { t.traffic with now := max t.now r.endsAt } = ⟨max t.now r.endsAt,
      t.breaker.machine, before.map (·.admission) ++ r.admission :: after.map (·.admission)⟩ := by
    simp [traffic, hrunning]
  have hsettled : (t.settle r).1.traffic = ⟨max t.now r.endsAt,
      t.breaker.machine.record t.breaker.settings r.admission r.result.isOk (max t.now r.endsAt),
      before.map (·.admission) ++ after.map (·.admission)⟩ := by
    simp [traffic, settle, herase, CircuitBreaker.settle, CircuitBreaker.record]
  refine ⟨(reaches_wait (Nat.le_max_left t.now r.endsAt)).trans
    ⟨[.settle (before.map (·.admission)).length r.result.isOk], ?_⟩, rfl⟩
  rw [htraffic, hsettled, ← hover]
  rfl

theorem becomes_settleUntil (time fuel : Nat) (t : Timeline ε α) :
    Becomes t (settleUntil time fuel t).1 := by
  induction fuel generalizing t with
  | zero => exact Becomes.refl t
  | succ fuel ih =>
    rw [settleUntil]
    split
    next => exact Becomes.refl t
    next r hr =>
      split
      next => exact (becomes_settle hr).trans (ih (t.settle r).1)
      next => exact Becomes.refl t

theorem becomes_advance (t : Timeline ε α) (time : Nat) : Becomes t (t.advance time).1 := by
  refine (becomes_settleUntil time t.running.length t).trans ?_
  exact ⟨reaches_wait (Nat.le_max_left _ time), rfl⟩

theorem becomes_cancel (t : Timeline ε α) (id : String) : Becomes t (t.cancel id) := by
  unfold cancel
  split
  next => exact Becomes.refl t
  next r hr =>
    obtain ⟨hid, before, after, hrunning, hbefore⟩ := List.find?_eq_some_iff_append.1 hr
    have herase : (t.running.eraseP fun other => other.id == id) = before ++ after := by
      rw [hrunning, List.eraseP_append_right _ (by simpa using hbefore)]
      simp [hid]
    have hover := step_abandon t.breaker.settings t.now t.breaker.machine
      (before.map (·.admission)) (after.map (·.admission)) r.admission
    have htraffic : t.traffic = ⟨t.now, t.breaker.machine,
        before.map (·.admission) ++ r.admission :: after.map (·.admission)⟩ := by
      simp [traffic, hrunning]
    refine ⟨⟨[.abandon (before.map (·.admission)).length], ?_⟩, rfl⟩
    rw [htraffic]
    refine hover.trans ?_
    simp [traffic, herase, CircuitBreaker.cancel]

theorem becomes_call (t : Timeline ε α) (id : String) (w : Work ε α) :
    Becomes t (t.call id w).1 := by
  have hlaunch := becomes_launch t id w
  unfold call
  split
  next t' finished h =>
    rw [h] at hlaunch
    exact hlaunch
  next t' h =>
    rw [h] at hlaunch
    split
    next => exact hlaunch
    next r hr => exact hlaunch.trans (becomes_advance t' r.endsAt)

/-- What is done with a timeline. -/
inductive Act (ε α : Type) where
  | launch (id : String) (w : Work ε α)
  | call (id : String) (w : Work ε α)
  | cancel (id : String)
  | sleep (ms : Nat)

/-- What an act makes of a timeline. -/
def act (t : Timeline ε α) : Act ε α → Timeline ε α
  | .launch id w => (t.launch id w).1
  | .call id w => (t.call id w).1
  | .cancel id => t.cancel id
  | .sleep ms => (t.sleep ms).1

/-- Acts one after the other. -/
def actAll (t : Timeline ε α) (acts : List (Act ε α)) : Timeline ε α := acts.foldl act t

theorem becomes_act (t : Timeline ε α) (a : Act ε α) : Becomes t (t.act a) := by
  cases a with
  | launch id w => exact becomes_launch t id w
  | call id w => exact becomes_call t id w
  | cancel id => exact becomes_cancel t id
  | sleep ms => exact becomes_advance t _

theorem becomes_actAll (t : Timeline ε α) (acts : List (Act ε α)) : Becomes t (t.actAll acts) := by
  induction acts generalizing t with
  | nil => exact Becomes.refl t
  | cons a acts ih => exact (becomes_act t a).trans (ih (t.act a))

/-- Whatever is done with a timeline is a history of its breaker. -/
theorem reaches_actAll (name : String) (s : BreakerSettings) (acts : List (Act ε α)) :
    Reaches s (.fresh 0) ((ofBreaker (CircuitBreaker.fresh name s 0)).actAll acts).traffic :=
  (becomes_actAll (ofBreaker (CircuitBreaker.fresh name s 0)) acts).1

end Timeline

end ModerationGateway.Breaker
