import ModerationGateway.Proofs.Breaker.Listing
import ModerationGateway.Proofs.Breaker.Service

/-!
# All breakers in service

Breakers are asked for by key while calls run on all that were made, also on those that are no
longer in use. Whatever goes on elsewhere, a breaker is what its own calls have made of it.

* `Panel`, `Panel.Act`, `Panel.run`: the registry with all calls, and what can happen;
* `Panel.service?`, `Panel.turnsOn`: one of the breakers, and what was done to it;
* `Panel.service?_run`: it is in the state in which these turns alone would leave it;
* `Panel.IsKept.run`, `Panel.IsKept.lists`: the registry tells of one breaker for each key that was
  asked for;
* `Panel.IsToldAs`, `Panel.snapshot_eq_iff`: and this is what it tells of each.
-/

namespace ModerationGateway.Breaker

variable {ε α : Type}

/-! ### The clock -/

namespace Turn

/-- How long a turn takes. -/
def length : Turn ε α → Nat
  | .wait ms => ms
  | _ => 0

/-- What a turn on one breaker is to the others: time goes by for all of them. -/
def elsewhere? : Turn ε α → Option (Turn ε α)
  | .wait ms => some (.wait ms)
  | _ => none

theorem elsewhere?_cases (t : Turn ε α) :
    t.elsewhere? = none ∧ t.length = 0 ∨ t.elsewhere? = some t := by
  cases t <;> simp [elsewhere?, length]

end Turn

namespace Service

theorem now_act (u : Service) (turn : Turn ε α) : (u.act turn).now = u.now + turn.length := by
  cases turn with
  | wait ms => rfl
  | come => simp only [act]; split <;> rfl
  | acquire i =>
    simp only [act]
    split
    · rfl
    · split <;> rfl
  | finish i result => simp only [act]; split <;> rfl
  | release => simp only [act]; split <;> rfl
  | drop i => simp only [act]; split <;> rfl
  | abandon i => simp only [act]; split <;> rfl

/-- What a turn on another breaker comes to. -/
theorem run_elsewhere (u : Service) (turn : Turn ε α) :
    u.run turn.elsewhere?.toList = { u with now := u.now + turn.length } := by
  cases turn with
  | wait ms => simp [Turn.elsewhere?, Turn.length, run, step, act, machine]
  | come => rfl
  | acquire i => rfl
  | finish i result => rfl
  | release => rfl
  | drop i => rfl
  | abandon i => rfl

end Service

/-! ### Panels -/

/-- The calls on a breaker: those that were let in, how many are over and have not given their
permits back, and how often the breaker has left the closed state. -/
structure Desk where
  callers : List Caller
  leaving : Nat
  exits : Nat

/-- The registry, with the calls on all breakers that were made. -/
structure Panel where
  now : Nat
  registry : Registry
  desks : BreakerId → Desk

namespace Panel

/-- What can happen: somebody asks for the breaker of a key, or a turn is taken on a breaker. -/
inductive Act (ε α : Type) where
  | get (key : String) (s : BreakerSettings)
  | turn (id : BreakerId) (t : Turn ε α)

/-- There are no breakers. -/
def start (now : Nat) : Panel := ⟨now, .empty, fun _ => ⟨[], 0, 0⟩⟩

/-- A breaker in service. -/
def service? (p : Panel) (id : BreakerId) : Option Service :=
  (p.registry.breaker? id).map fun b =>
    ⟨p.now, b, (p.desks id).callers, (p.desks id).leaving, (p.desks id).exits⟩

/-- Something has happened to a breaker. -/
def put (p : Panel) (id : BreakerId) (u : Service) : Panel :=
  ⟨u.now, p.registry.update id u.breaker,
    fun i => if i = id then ⟨u.callers, u.leaving, u.exits⟩ else p.desks i⟩

/-- The breaker that is given to somebody who asks. -/
def given (p : Panel) (key : String) (s : BreakerSettings) : BreakerId :=
  (p.registry.getOrCreate key s p.now).2

/-- Somebody has asked for a breaker. -/
def ask (p : Panel) (key : String) (s : BreakerSettings) : Panel :=
  { p with registry := (p.registry.getOrCreate key s p.now).1 }

/-- One act. A turn on a breaker that was not made does nothing but take its time. -/
def act (p : Panel) : Act ε α → Panel
  | .get key s => p.ask key s
  | .turn id turn =>
    match p.service? id with
    | some u => p.put id (u.step turn)
    | none => { p with now := p.now + turn.length }

/-- Acts one after the other. -/
def run (p : Panel) (acts : List (Act ε α)) : Panel := acts.foldl act p

theorem run_append (p : Panel) (acts more : List (Act ε α)) :
    p.run (acts ++ more) = (p.run acts).run more :=
  List.foldl_append

/-- What an act is to a breaker. -/
def Act.turnOn? (id : BreakerId) : Act ε α → Option (Turn ε α)
  | .get _ _ => none
  | .turn i t => if i = id then some t else t.elsewhere?

/-- The turns of some acts on a breaker. -/
def turnsOn (id : BreakerId) (acts : List (Act ε α)) : List (Turn ε α) :=
  acts.filterMap (Act.turnOn? id)

theorem turnsOn_cons (id : BreakerId) (a : Act ε α) (acts : List (Act ε α)) :
    turnsOn id (a :: acts) = (a.turnOn? id).toList ++ turnsOn id acts := by
  simp only [turnsOn, List.filterMap_eq_flatMap_toList, List.flatMap_cons]

/-- The key that is asked for. -/
def Act.key? : Act ε α → Option String
  | .get key _ => some key
  | .turn _ _ => none

/-- The keys that are asked for, in turn. -/
def keys (acts : List (Act ε α)) : List String := acts.filterMap Act.key?

theorem keys_cons (a : Act ε α) (acts : List (Act ε α)) :
    keys (a :: acts) = a.key?.toList ++ keys acts := by
  simp only [keys, List.filterMap_eq_flatMap_toList, List.flatMap_cons]

variable {p : Panel} {id i : BreakerId} {u : Service}

/-! ### Breakers and their calls -/

theorem service?_eq_some : p.service? id = some u ↔ p.registry.breaker? id = some u.breaker ∧
    p.now = u.now ∧ p.desks id = ⟨u.callers, u.leaving, u.exits⟩ := by
  rw [service?, Option.map_eq_some_iff]
  constructor
  · rintro ⟨b, hb, rfl⟩
    exact ⟨hb, rfl, rfl⟩
  · rintro ⟨hb, hnow, hdesk⟩
    exact ⟨u.breaker, hb, by rw [hnow, hdesk]⟩

theorem exists_service? {b : CircuitBreaker} (h : p.registry.breaker? id = some b) :
    ∃ u, p.service? id = some u ∧ u.breaker = b :=
  ⟨_, by rw [service?, h]; rfl, rfl⟩

theorem act_turn (h : p.service? id = some u) (turn : Turn ε α) :
    p.act (.turn id turn) = p.put id (u.step turn) := by
  simp only [act, h]

/-! ### What a turn leaves alone -/

/-- Whatever is done to a breaker, the clock goes on for all. -/
@[simp] theorem now_act_turn (p : Panel) (id : BreakerId) (t : Turn ε α) :
    (p.act (.turn id t)).now = p.now + t.length := by
  cases hu : p.service? id with
  | none => simp only [act, hu]
  | some u =>
    rw [act_turn hu, (service?_eq_some.1 hu).2.1]
    exact u.now_act t

@[simp] theorem index_act_turn (p : Panel) (id : BreakerId) (t : Turn ε α) :
    (p.act (.turn id t)).registry.index = p.registry.index := by
  simp only [act]
  split <;> rfl

@[simp] theorem length_made_act_turn (p : Panel) (id : BreakerId) (t : Turn ε α) :
    (p.act (.turn id t)).registry.made.length = p.registry.made.length := by
  simp only [act]
  split
  · exact List.length_set
  · rfl

theorem breaker?_act_turn (hi : i ≠ id) (p : Panel) (t : Turn ε α) :
    (p.act (.turn id t)).registry.breaker? i = p.registry.breaker? i := by
  simp only [act]
  split
  · exact Registry.breaker?_update_of_ne (Ne.symm hi) _
  · rfl

theorem desks_act_turn (hi : i ≠ id) (p : Panel) (t : Turn ε α) :
    (p.act (.turn id t)).desks i = p.desks i := by
  simp only [act]
  split
  · exact if_neg hi
  · rfl

/-! ### One breaker -/

/-- Asking for a breaker does nothing to those that were made. -/
theorem service?_ask (hid : id < p.registry.made.length) (key : String) (s : BreakerSettings) :
    (p.ask key s).service? id = p.service? id := by
  rw [service?, ask, Registry.breaker?_getOrCreate hid, service?]

/-- A breaker after an act, which was a turn on it or not. -/
theorem service?_act (h : p.service? id = some u) (a : Act ε α) :
    (p.act a).service? id = some (u.run (a.turnOn? id).toList) := by
  obtain ⟨hb, hnow, hdesk⟩ := service?_eq_some.1 h
  have hid : id < p.registry.made.length := (List.getElem?_eq_some_iff.1 hb).1
  cases a with
  | get key s => exact (service?_ask hid key s).trans h
  | turn i t =>
    by_cases hi : i = id
    · subst hi
      rw [act_turn h, Act.turnOn?, if_pos rfl]
      apply service?_eq_some.2
      exact ⟨List.getElem?_set_self hid, rfl, if_pos rfl⟩
    · rw [Act.turnOn?, if_neg hi, u.run_elsewhere]
      apply service?_eq_some.2
      rw [breaker?_act_turn (Ne.symm hi), now_act_turn, desks_act_turn (Ne.symm hi), hnow]
      exact ⟨hb, rfl, hdesk⟩

/-- A breaker after a run is what the turns on it have made of it. -/
theorem service?_run (h : p.service? id = some u) (acts : List (Act ε α)) :
    (p.run acts).service? id = some (u.run (turnsOn id acts)) := by
  induction acts generalizing p u with
  | nil => exact h
  | cons a acts ih =>
    rw [turnsOn_cons, Service.run_append]
    exact ih (service?_act h a)

/-! ### All breakers -/

/-- The index is in order, no breaker is in use for two keys, the keys in use are those that were
asked for, and nobody calls a breaker that was not made. -/
structure IsKept (p : Panel) (asked : List String) : Prop where
  indexed : p.registry.IsIndexed
  separate : p.registry.IsSeparate []
  asked : ∀ key, (∃ id, p.registry.index.lookup key = some id) ↔ key ∈ asked
  idle : ∀ id, p.registry.made.length ≤ id → p.desks id = ⟨[], 0, 0⟩

variable {asked : List String} {key : String} {s : BreakerSettings}

theorem isKept_start (now : Nat) : IsKept (start now) [] :=
  ⟨.empty, .empty, fun key => by simp [start, Registry.empty], fun _ _ => rfl⟩

theorem IsKept.ask (h : IsKept p asked) (key : String) (s : BreakerSettings) :
    IsKept (p.ask key s) (asked ++ [key]) := by
  refine ⟨h.indexed.getOrCreate key s p.now, ?_, fun other => ?_, fun id hid => h.idle id ?_⟩
  · exact (h.separate.getOrCreate key s p.now).of_held
  · rw [Panel.ask, Registry.lookup_getOrCreate, List.mem_append, List.mem_singleton]
    by_cases hother : other = key
    · simp [hother]
    · simp [hother, h.asked other]
  · exact Nat.le_trans (Registry.prefix_made_getOrCreate p.registry key s p.now).length_le hid

theorem IsKept.turn (h : IsKept p asked) (id : BreakerId) (t : Turn ε α) :
    IsKept (p.act (.turn id t)) asked := by
  have hregistry : (p.act (.turn id t)).registry = p.registry ∨
      ∃ b, (p.act (.turn id t)).registry = p.registry.update id b := by
    simp only [act]
    split
    · exact .inr ⟨_, rfl⟩
    · exact .inl rfl
  have hidle : ∀ i, p.registry.made.length ≤ i → (p.act (.turn id t)).desks i = p.desks i := by
    intro i hi
    cases hu : p.service? id with
    | none => simp only [act, hu]
    | some u =>
      have hid : id < p.registry.made.length :=
        (List.getElem?_eq_some_iff.1 (service?_eq_some.1 hu).1).1
      exact desks_act_turn (Nat.ne_of_gt (Nat.lt_of_lt_of_le hid hi)) p t
  refine ⟨?_, ?_, fun key => ?_, fun i hi => ?_⟩
  · rcases hregistry with hsame | ⟨b, hchange⟩
    · exact hsame ▸ h.indexed
    · exact hchange ▸ h.indexed.update id b
  · rcases hregistry with hsame | ⟨b, hchange⟩
    · exact hsame ▸ h.separate
    · exact hchange ▸ h.separate.update id b
  · rw [index_act_turn]
    exact h.asked key
  · rw [length_made_act_turn] at hi
    rw [hidle i hi]
    exact h.idle i hi

theorem IsKept.act (h : IsKept p asked) (a : Act ε α) :
    IsKept (p.act a) (asked ++ a.key?.toList) := by
  cases a with
  | get key s => exact h.ask key s
  | turn id t => simpa [Act.key?] using h.turn id t

theorem IsKept.run (h : IsKept p asked) (acts : List (Act ε α)) :
    IsKept (p.run acts) (asked ++ keys acts) := by
  induction acts generalizing p asked with
  | nil => exact (List.append_nil asked).symm ▸ h
  | cons a acts ih =>
    rw [keys_cons, ← List.append_assoc]
    exact ih (h.act a)

/-- What is told of a breaker: its state, how many outcomes and failures it has counted, and how many
permits are free. -/
structure IsToldAs (b : CircuitBreaker) (told : Snapshot) : Prop where
  state : told.state = b.machine.state
  requests : told.requests = b.machine.counts.requests
  errors : told.errors = b.machine.counts.errors
  available : told.available = b.available

theorem snapshot_eq_iff {b : CircuitBreaker} {told : Snapshot} :
    b.snapshot = told ↔ IsToldAs b told := by
  constructor
  · rintro rfl
    exact ⟨rfl, rfl, rfl, rfl⟩
  · rintro ⟨hstate, hrequests, herrors, havailable⟩
    rw [CircuitBreaker.snapshot, ← hstate, ← hrequests, ← herrors, ← havailable]

/-- What is told of the breakers: one entry for each key that was asked for, in the order of the
keys, and each is that of a breaker which is in use for this key alone. -/
structure Lists (r : Registry) (asked : List String) : Prop where
  ordered : (r.snapshots.map Prod.fst).Pairwise (· < ·)
  keys : ∀ key, key ∈ r.snapshots.map Prod.fst ↔ key ∈ asked
  told : ∀ key told, (key, told) ∈ r.snapshots ↔
    ∃ id b, r.find? key = some (id, b) ∧ IsToldAs b told
  alone : ∀ key other id b b', r.find? key = some (id, b) → r.find? other = some (id, b') →
    key = other
  size : r.size = r.snapshots.length

theorem IsKept.lists (h : IsKept p asked) : Lists p.registry asked := by
  have hkeys := h.indexed.keys_snapshots
  refine ⟨?_, fun key => ?_, fun key told => ?_, ?_, ?_⟩
  · rw [hkeys, List.pairwise_map]
    exact h.indexed.ordered
  · rw [hkeys, ← h.asked, List.mem_map]
    simp [h.indexed.ordered.lookup_eq_some_iff]
  · simp only [h.indexed.mem_snapshots, snapshot_eq_iff]
  · intro key other id b b' hkey hother
    exact h.separate.inj key other id (.inl (Registry.find?_eq_some.1 hkey).1)
      (.inl (Registry.find?_eq_some.1 hother).1)
  · rw [Registry.size, ← List.length_map Prod.fst, ← hkeys, List.length_map]

end Panel

end ModerationGateway.Breaker
