import ModerationGateway.Proofs.Breaker.Panel

/-!
# Asking for a breaker again

Whoever asks for the breaker of a key again gets the same one if the settings are the same, as its
calls have left it, and a fresh one otherwise. The one that was replaced is in use no more. Its
calls can still run, and whatever they come to is nothing to any other breaker.

* `InUse`, `InUse.run`: the breaker of a key, which stays in use until somebody asks again;
* `IsRetired`: a breaker that was replaced, which is never in use again;
* `AgreesBut.run`: without the calls on a breaker that was replaced all others would be the same;
* `handover_run`: what a second request comes to, at every moment of every run.
-/

namespace ModerationGateway.Breaker.Panel

variable {ε α : Type} {p : Panel} {id i : BreakerId} {asked : List String} {key : String}
  {s : BreakerSettings}

/-! ### The breaker of a key -/

/-- A breaker with the given settings is in use for a key. -/
def InUse (p : Panel) (key : String) (id : BreakerId) (s : BreakerSettings) : Prop :=
  ∃ b, p.registry.find? key = some (id, b) ∧ b.settings = s

theorem inUse_iff : p.InUse key id s ↔ p.registry.index.lookup key = some id ∧
    ∃ b, p.registry.breaker? id = some b ∧ b.settings = s := by
  simp only [InUse, Registry.find?_eq_some, and_assoc, exists_and_left]

/-- Whoever asks gets the breaker that is then in use, with the settings asked for. -/
theorem inUse_ask (p : Panel) (key : String) (s : BreakerSettings) :
    (p.ask key s).InUse key (p.given key s) s := by
  obtain ⟨b, hb, hfind⟩ := p.registry.exists_find?_getOrCreate key s p.now
  exact ⟨b, hfind, hb⟩

/-- It is in use until somebody asks for the breaker of the key again. -/
theorem InUse.act (h : p.InUse key id s) (hp : IsKept p asked) {a : Act ε α}
    (ha : a.key? ≠ some key) : (p.act a).InUse key id s := by
  cases a with
  | get other s' =>
    have hne : key ≠ other := fun hkey => ha (congrArg some hkey.symm)
    obtain ⟨b, hfind, hb⟩ := h
    exact ⟨b, (hp.separate.find?_getOrCreate_of_ne hne s' p.now).trans hfind, hb⟩
  | turn i t =>
    obtain ⟨hlookup, b, hget, hb⟩ := inUse_iff.1 h
    rw [inUse_iff, index_act_turn]
    refine ⟨hlookup, ?_⟩
    by_cases hi : id = i
    · subst hi
      obtain ⟨u, hu, rfl⟩ := exists_service? hget
      have hlater := (service?_eq_some.1 (service?_act hu (.turn id t))).1
      rw [Act.turnOn?, if_pos rfl] at hlater
      exact ⟨_, hlater, (u.settings_step t).trans hb⟩
    · exact ⟨b, (breaker?_act_turn hi p t).trans hget, hb⟩

theorem InUse.run (h : p.InUse key id s) (hp : IsKept p asked) {acts : List (Act ε α)}
    (hacts : key ∉ keys acts) : (p.run acts).InUse key id s := by
  induction acts generalizing p asked with
  | nil => exact h
  | cons a acts ih =>
    rw [keys_cons, List.mem_append, not_or, Option.mem_toList] at hacts
    obtain ⟨ha, hlater⟩ := hacts
    exact ih (h.act hp ha) (hp.act a) hlater

/-- Asking for the settings of the breaker in use changes nothing. -/
theorem InUse.ask_same (h : p.InUse key id s) : p.given key s = id ∧ p.ask key s = p := by
  obtain ⟨b, hfind, hb⟩ := h
  have hget := Registry.getOrCreate_of_settings_eq hfind hb p.now
  rw [given, ask, hget]
  exact ⟨rfl, rfl⟩

/-- Asking for others gives a new breaker. -/
theorem InUse.ask_other (h : p.InUse key id s) {s' : BreakerSettings} (hs : s' ≠ s) :
    p.registry.getOrCreate key s' p.now = p.registry.create key s' p.now := by
  obtain ⟨b, hfind, hb⟩ := h
  have hne : b.settings ≠ s' := fun hsame => hs (hsame.symm.trans hb)
  simp only [Registry.getOrCreate, hfind, if_neg hne]

/-! ### Replaced breakers -/

/-- A breaker was made, and is in use for no key. -/
structure IsRetired (r : Registry) (id : BreakerId) : Prop where
  made : id < r.made.length
  unused : ∀ key, r.index.lookup key ≠ some id

/-- It is given to nobody. -/
theorem IsRetired.given_ne (h : IsRetired p.registry id) (key : String) (s : BreakerSettings) :
    p.given key s ≠ id := by
  rcases Registry.getOrCreate_cases p.registry key s p.now with ⟨i, b, hfind, -, hget⟩ | hget
  · rw [given, hget]
    rintro rfl
    exact h.unused key (Registry.find?_eq_some.1 hfind).1
  · rw [given, hget]
    exact Nat.ne_of_gt h.made

/-- So it is never in use again. -/
theorem IsRetired.ask (h : IsRetired p.registry id) (key : String) (s : BreakerSettings) :
    IsRetired (p.ask key s).registry id := by
  refine ⟨Nat.lt_of_lt_of_le h.made
    (Registry.prefix_made_getOrCreate p.registry key s p.now).length_le, fun other => ?_⟩
  rw [Panel.ask, Registry.lookup_getOrCreate]
  split
  · exact fun hsame => h.given_ne key s (Option.some.inj hsame)
  · exact h.unused other

theorem IsRetired.turn (h : IsRetired p.registry id) (i : BreakerId) (t : Turn ε α) :
    IsRetired (p.act (.turn i t)).registry id := by
  refine ⟨?_, fun key => ?_⟩
  · rw [length_made_act_turn]
    exact h.made
  · rw [index_act_turn]
    exact h.unused key

/-- A panel is as another but for one breaker and the calls on it. -/
structure AgreesBut (id : BreakerId) (p p' : Panel) : Prop where
  now : p'.now = p.now
  index : p'.registry.index = p.registry.index
  length : p'.registry.made.length = p.registry.made.length
  breaker : ∀ i ≠ id, p'.registry.breaker? i = p.registry.breaker? i
  desk : ∀ i ≠ id, p'.desks i = p.desks i

namespace AgreesBut

variable {p' : Panel}

theorem refl (id : BreakerId) (p : Panel) : AgreesBut id p p :=
  ⟨rfl, rfl, rfl, fun _ _ => rfl, fun _ _ => rfl⟩

theorem service? (h : AgreesBut id p p') (hi : i ≠ id) : p'.service? i = p.service? i := by
  rw [Panel.service?, h.now, h.breaker i hi, h.desk i hi, Panel.service?]

/-- If the breaker is retired, all that are in use are the same. -/
theorem find? (h : AgreesBut id p p') (hid : IsRetired p.registry id) (key : String) :
    p'.registry.find? key = p.registry.find? key := by
  rw [Registry.find?, h.index, Registry.find?]
  cases hlookup : p.registry.index.lookup key with
  | none => rfl
  | some i =>
    have hi : i ≠ id := by
      rintro rfl
      exact hid.unused key hlookup
    simp only [Option.bind_eq_bind, Option.bind_some, h.breaker i hi]

/-- So those who ask get the same breaker. -/
theorem ask (h : AgreesBut id p p') (hid : IsRetired p.registry id) (key : String)
    (s : BreakerSettings) : AgreesBut id (p.ask key s) (p'.ask key s) := by
  have hcreate : AgreesBut id { p with registry := (p.registry.create key s p.now).1 }
      ⟨p.now, (p'.registry.create key s p.now).1, p'.desks⟩ := by
    refine ⟨rfl, ?_, ?_, fun i hi => ?_, h.desk⟩
    · simp only [Registry.create, h.index, h.length]
    · simp only [Registry.create, List.length_append, h.length]
    · have hold := h.breaker i hi
      simp only [Registry.breaker?] at hold
      simp only [Registry.breaker?, Registry.create, List.getElem?_append, h.length, hold]
  simp only [Panel.ask, Registry.getOrCreate, h.find? hid key, h.now]
  cases p.registry.find? key with
  | none => exact hcreate
  | some found =>
    by_cases hs : found.2.settings = s
    · simp only [if_pos hs]
      exact ⟨rfl, h.index, h.length, h.breaker, h.desk⟩
    · simp only [if_neg hs]
      exact hcreate

/-- A turn on another breaker does the same. -/
theorem turn (h : AgreesBut id p p') (hi : i ≠ id) (t : Turn ε α) :
    AgreesBut id (p.act (.turn i t)) (p'.act (.turn i t)) := by
  cases hu : p.service? i with
  | none =>
    have hu' : p'.service? i = none := (h.service? hi).trans hu
    simp only [act, hu, hu']
    exact ⟨congrArg (· + t.length) h.now, h.index, h.length, h.breaker, h.desk⟩
  | some u =>
    have hu' : p'.service? i = some u := (h.service? hi).trans hu
    rw [act_turn hu, act_turn hu']
    refine ⟨rfl, h.index, ?_, fun j hj => ?_, fun j hj => ?_⟩
    · simp only [put, Registry.update, List.length_set, h.length]
    · have hold := h.breaker j hj
      simp only [Registry.breaker?] at hold
      simp only [Registry.breaker?, put, Registry.update, List.getElem?_set, h.length, hold]
    · simp only [put, h.desk j hj]

/-- A turn on the breaker itself is the time that it takes. -/
theorem turn_self (h : AgreesBut id p p') (t : Turn ε α) :
    AgreesBut id (p.act (.turn id t)) (p'.run (t.elsewhere?.map (Act.turn id)).toList) := by
  rcases t.elsewhere?_cases with ⟨hnone, hlength⟩ | hsome
  · rw [hnone]
    refine ⟨?_, ?_, ?_, fun i hi => ?_, fun i hi => ?_⟩
    · rw [now_act_turn, hlength]
      exact h.now
    · rw [index_act_turn]
      exact h.index
    · rw [length_made_act_turn]
      exact h.length
    · rw [breaker?_act_turn hi]
      exact h.breaker i hi
    · rw [desks_act_turn hi]
      exact h.desk i hi
  · rw [hsome]
    show AgreesBut id (p.act (.turn id t)) (p'.act (.turn id t))
    refine ⟨?_, ?_, ?_, fun i hi => ?_, fun i hi => ?_⟩
    · rw [now_act_turn, now_act_turn, h.now]
    · rw [index_act_turn, index_act_turn, h.index]
    · rw [length_made_act_turn, length_made_act_turn, h.length]
    · rw [breaker?_act_turn hi, breaker?_act_turn hi, h.breaker i hi]
    · rw [desks_act_turn hi, desks_act_turn hi, h.desk i hi]

end AgreesBut

/-- What is left of an act without the calls on a breaker: if it was a turn on this breaker, the
time that it took. -/
def Act.without? (id : BreakerId) : Act ε α → Option (Act ε α)
  | .get key s => some (.get key s)
  | .turn i t => if i = id then t.elsewhere?.map (.turn i) else some (.turn i t)

/-- Some acts without the calls on a breaker. -/
def without (id : BreakerId) (acts : List (Act ε α)) : List (Act ε α) :=
  acts.filterMap (Act.without? id)

theorem without_cons (id : BreakerId) (a : Act ε α) (acts : List (Act ε α)) :
    without id (a :: acts) = (a.without? id).toList ++ without id acts := by
  simp only [without, List.filterMap_eq_flatMap_toList, List.flatMap_cons]

/-- A breaker that was replaced makes no difference to any other. -/
theorem AgreesBut.run {p' : Panel} (h : AgreesBut id p p') (hid : IsRetired p.registry id)
    (acts : List (Act ε α)) : AgreesBut id (p.run acts) (p'.run (without id acts)) ∧
      IsRetired (p.run acts).registry id := by
  induction acts generalizing p p' with
  | nil => exact ⟨h, hid⟩
  | cons a acts ih =>
    rw [without_cons, run_append]
    cases a with
    | get key s => exact ih (h.ask hid key s) (hid.ask key s)
    | turn i t =>
      have hstep : AgreesBut id (p.act (.turn i t))
          (p'.run ((Act.turn i t).without? id).toList) := by
        by_cases hi : i = id
        · subst hi
          rw [Act.without?, if_pos rfl]
          exact h.turn_self t
        · rw [Act.without?, if_neg hi]
          exact h.turn hi t
      exact ih hstep (hid.turn i t)

/-! ### Two requests -/

/-- What comes of a request for a key whose breaker in use is known. -/
structure Handover (ε α : Type) (p : Panel) (key : String) (id : BreakerId)
    (s s' : BreakerSettings) : Prop where
  /-- The same breaker is given if the settings are the same, and only then. -/
  same_iff : p.given key s' = id ↔ s' = s
  /-- The breaker that is given is in use. -/
  inUse : (p.ask key s').InUse key (p.given key s') s'
  /-- The request does nothing to the breaker that was in use. -/
  kept : (p.ask key s').service? id = p.service? id
  /-- A breaker with other settings is fresh, and the registry tells so. -/
  fresh : s' ≠ s → (p.ask key s').service? (p.given key s') = some (.fresh key s' p.now) ∧
    (key, ⟨.closed, 0, 0, s'.permits⟩) ∈ (p.ask key s').registry.snapshots
  /-- The breaker that was replaced is given to nobody any more, and without its calls all others
  would be in the same state, and in use for the same keys. -/
  apart : s' ≠ s → ∀ acts : List (Act ε α),
    let later := (p.ask key s').run acts
    let later' := (p.ask key s').run (without id acts)
    (∀ other s'', later.given other s'' ≠ id) ∧
      (∀ i ≠ id, later.service? i = later'.service? i) ∧
      ∀ other, later.registry.find? other = later'.registry.find? other

/-- The breaker that was in use for a key is retired by a request that gives another. -/
theorem IsKept.isRetired_ask (hp : IsKept p asked) (h : p.InUse key id s) {s' : BreakerSettings}
    (hs : s' ≠ s) : IsRetired (p.ask key s').registry id := by
  obtain ⟨hlookup, -⟩ := inUse_iff.1 h
  have hid : id < p.registry.made.length := hp.separate.bound key id (.inl hlookup)
  have hgiven : p.given key s' = p.registry.made.length := by
    rw [given, h.ask_other hs]
    rfl
  refine ⟨Nat.lt_of_lt_of_le hid
    (Registry.prefix_made_getOrCreate p.registry key s' p.now).length_le, fun other => ?_⟩
  rw [Panel.ask, Registry.lookup_getOrCreate]
  by_cases hother : other = key
  · rw [if_pos hother]
    exact fun hsame => Nat.ne_of_gt hid (hgiven.symm.trans (Option.some.inj hsame))
  · rw [if_neg hother]
    exact fun hsame => hother (hp.separate.inj other key id (.inl hsame) (.inl hlookup))

theorem IsKept.handover (hp : IsKept p asked) (h : p.InUse key id s) (s' : BreakerSettings) :
    Handover ε α p key id s s' := by
  obtain ⟨hlookup, -⟩ := inUse_iff.1 h
  have hid : id < p.registry.made.length := hp.separate.bound key id (.inl hlookup)
  have hnew : s' ≠ s → p.given key s' = p.registry.made.length ∧
      (p.ask key s').registry.breaker? (p.given key s') = some (.fresh key s' p.now) := by
    intro hs
    rw [given, Panel.ask, h.ask_other hs]
    exact ⟨rfl, List.getElem?_concat_length⟩
  refine ⟨⟨fun hsame => ?_, ?_⟩, inUse_ask p key s', service?_ask hid key s', fun hs => ?_,
    fun hs acts => ?_⟩
  · by_contra hs
    exact Nat.ne_of_gt hid ((hnew hs).1.symm.trans hsame)
  · rintro rfl
    exact h.ask_same.1
  · obtain ⟨hgiven, hb⟩ := hnew hs
    have hidle : p.desks (p.given key s') = ⟨[], 0, 0⟩ := hp.idle _ (Nat.le_of_eq hgiven.symm)
    have hfind : (p.ask key s').registry.find? key =
        some (p.given key s', .fresh key s' p.now) := by
      refine Registry.find?_eq_some.2 ⟨?_, hb⟩
      exact (Registry.lookup_getOrCreate p.registry key s' p.now key).trans (if_pos rfl)
    exact ⟨service?_eq_some.2 ⟨hb, rfl, hidle⟩,
      (hp.ask key s').indexed.mem_snapshots.2 ⟨_, _, hfind, rfl⟩⟩
  · have hretired := hp.isRetired_ask h hs
    obtain ⟨hagrees, hlater⟩ := (AgreesBut.refl id (p.ask key s')).run hretired acts
    exact ⟨hlater.given_ne, fun i hi => (hagrees.service? hi).symm,
      fun other => (hagrees.find? hlater other).symm⟩

/-- Along every run the registry tells of one breaker for each key that was asked for. Of two
requests for a key with none between, the second gives the breaker of the first if the settings are
the same, and only then. This breaker is as its own calls have left it since. Otherwise it is
replaced by a fresh one, and its calls are nothing to anybody else. -/
theorem handover_run (now : Nat) :
    (∀ acts : List (Act ε α), Lists ((start now).run acts).registry (keys acts)) ∧
      ∀ (before between : List (Act ε α)) (key : String) (s s' : BreakerSettings),
        key ∉ keys between →
        let p := (start now).run before
        let id := p.given key s
        let q := (p.ask key s).run between
        (∃ u, (p.ask key s).service? id = some u ∧
            q.service? id = some (u.run (turnsOn id between))) ∧
          Handover ε α q key id s s' := by
  have hkept : ∀ acts : List (Act ε α), IsKept ((start now).run acts) (keys acts) :=
    fun acts => (isKept_start now).run acts
  refine ⟨fun acts => (hkept acts).lists, fun before between key s s' hbetween => ?_⟩
  intro p id q
  have hfirst : IsKept (p.ask key s) (keys before ++ [key]) := (hkept before).ask key s
  have hinUse : (p.ask key s).InUse key id s := inUse_ask p key s
  obtain ⟨b, hb, -⟩ := (inUse_iff.1 hinUse).2
  obtain ⟨u, hu, -⟩ := exists_service? hb
  exact ⟨⟨u, hu, service?_run hu between⟩,
    (hfirst.run between).handover (hinUse.run hfirst hbetween) s'⟩

/-- The default settings, but for a shorter limit on calls. -/
def brisk : BreakerSettings := { BreakerSettings.standard with timeoutMs := 9 }

/-- A call runs on the breaker of a key. -/
def oneCall : List (Act Unit Unit) :=
  [.get "a" .standard, .turn 0 .come, .turn 0 (.acquire 0)]

/-- Another call comes, on the same breaker, and one on the breaker of another key. -/
def twoCalls : List (Act Unit Unit) :=
  [.get "b" .standard, .turn 0 .come, .turn 1 .come, .turn 0 (.wait 20)]

/-- The settings change back, and the first call fails. -/
def lateFailure : List (Act Unit Unit) :=
  [.get "a" .standard, .turn 0 (.finish 0 (.error (.inner ()))), .turn 0 .release]

/-- A breaker is asked for with its settings, then with others, and then with the first ones again,
which gives a third breaker. The late failure is counted on the first one and nowhere else. -/
theorem handover_run_lateFailure :
    let p := (start 0).run oneCall
    let q := (p.ask "a" .standard).run twoCalls
    let r := (q.ask "a" brisk).run lateFailure
    (∃ u, p.service? 0 = some u ∧
        q.service? 0 = some (u.run [(.come : Turn Unit Unit), .wait 20])) ∧
      q.given "a" brisk ≠ 0 ∧
      (q.ask "a" brisk).service? 2 = some (.fresh "a" brisk 20) ∧
      (r.registry.breaker? 0).map (·.machine.counts.errors) = some 1 ∧
      r.registry.find? "a" =
        ((q.ask "a" brisk).run [(.get "a" .standard : Act Unit Unit)]).registry.find? "a" ∧
      r.registry.snapshots.map Prod.fst = ["a", "b"] ∧
      (r.registry.snapshots.map Prod.fst).Pairwise (· < ·) := by
  intro p q r
  obtain ⟨hlists, hrequests⟩ := handover_run (ε := Unit) (α := Unit) 0
  obtain ⟨⟨u, hu, hq⟩, hhandover⟩ :=
    hrequests oneCall twoCalls "a" .standard brisk (by decide +kernel)
  have hbrisk : brisk ≠ .standard := by decide
  have hmade : 0 < p.registry.made.length := by decide +kernel
  have hfirst : p.given "a" .standard = 0 := by decide +kernel
  have hthird : q.given "a" brisk = 2 := by decide +kernel
  have hlater : q.now = 20 := by decide +kernel
  obtain ⟨-, -, hapart⟩ := hhandover.apart hbrisk lateFailure
  obtain ⟨hfresh, -⟩ := hhandover.fresh hbrisk
  have hr : r = (start 0).run
      (oneCall ++ .get "a" .standard :: (twoCalls ++ .get "a" brisk :: lateFailure)) := by
    simp only [run, List.foldl_append, List.foldl_cons, p, q, r, act]
  have hordered := (hlists
    (oneCall ++ .get "a" .standard :: (twoCalls ++ .get "a" brisk :: lateFailure))).ordered
  rw [← hr] at hordered
  rw [hfirst] at hu hq
  rw [service?_ask hmade] at hu
  rw [hthird, hlater] at hfresh
  refine ⟨⟨u, hu, hq⟩, fun hsame => ?_, hfresh, by decide +kernel, hapart "a", by decide +kernel,
    hordered⟩
  exact hbrisk (hhandover.same_iff.1 (hsame.trans hfirst.symm))

end ModerationGateway.Breaker.Panel
