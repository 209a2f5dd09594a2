import ModerationGateway.Proofs.Words.Cells

/-!
# Callers of the matcher cache

Any number of callers share the cache. A caller takes hold of a cell when it comes. Whoever has its
turn on an empty cell that nobody loads begins a load: it reads the list at some later moment and
is done with it at a still later one, or leaves before that. In the meantime others come, the lists
change, and sources are dropped.

* `Ticket`, `Stage`, `Caller`: what a caller holds, and how far it has come;
* `Load`: a load that is over;
* `Sharing`, `Move`, `Sharing.step`, `Sharing.run`: the cache with all who ever came, and its moves;
* `act_turn_cases`, `act_read_cases`, `act_finish_cases`, `act_leave_cases`: what a caller's move
  can do;
* `alone_eq_get`: a caller that nobody gets in the way of gets what `MatcherCache.get` gives.
-/

namespace ModerationGateway.Words

/-- What a caller holds from the moment at which it comes. -/
structure Ticket where
  key : MatcherKey
  cell : Nat
  start : Nat

/-- How far a caller has come. A load is begun at a moment, and the list read at another. -/
inductive Stage where
  | waiting
  | loading (begun : Nat) (list : Option (Nat × WordSource))
  | served (found : CachedMatcher)
  | failed (load : Nat) (fault : Fault)
  | gone

/-- A caller is on a load. -/
def Stage.isLoading : Stage → Bool
  | loading _ _ => true
  | _ => false

/-- A caller is done, for better or worse. -/
def Stage.isDone : Stage → Bool
  | waiting | loading _ _ => false
  | served _ | failed _ _ | gone => true

/-- What a caller was served. -/
def Stage.found? : Stage → Option CachedMatcher
  | served found => some found
  | _ => none

/-- One who asked for a matcher. -/
structure Caller where
  ticket : Ticket
  stage : Stage

/-- A load that is over: whose it was and on which ticket, when it was begun, when the list was
read, and what was read. -/
structure Load where
  caller : Nat
  ticket : Ticket
  begun : Nat
  read : Nat
  outcome : Except Fault (List String)

/-- The cache, the source as it is now, all who ever came, the loads that are over, and the number
of moves so far. -/
structure Sharing where
  cache : MatcherCache
  source : WordSource
  callers : List Caller
  loads : List Load
  clock : Nat

namespace Sharing

/-- What can happen. -/
inductive Move where
  | call (key : MatcherKey)
  | turn (caller : Nat)
  | read (caller : Nat)
  | finish (caller : Nat)
  | leave (caller : Nat)
  | invalidate (source : String)
  | change (source : WordSource)

/-- An empty cache before anybody came. -/
def start (source : WordSource) : Sharing := ⟨.empty, source, [], [], 0⟩

/-- Somebody is on a load for the cell. -/
def isLoading (s : Sharing) (cell : Nat) : Bool :=
  s.callers.any fun a => a.ticket.cell == cell && a.stage.isLoading

/-- A caller gets on. -/
def put (s : Sharing) (i : Nat) (a : Caller) (stage : Stage) : Sharing :=
  { s with callers := s.callers.set i { a with stage } }

/-- What becomes of a caller whose load is over. -/
def stageOf (load : Nat) : Except Fault CachedMatcher → Stage
  | .ok found => .served found
  | .error fault => .failed load fault

/-- What a move does, the clock apart. -/
def act (s : Sharing) : Move → Sharing
  | .call key =>
    let (cache, cell) := s.cache.enter key
    { s with cache, callers := s.callers ++ [⟨⟨key, cell, s.clock⟩, .waiting⟩] }
  | .turn i =>
    match s.callers[i]? with
    | some ⟨ticket, .waiting⟩ =>
      match s.cache.content ticket.cell with
      | some found => s.put i ⟨ticket, .waiting⟩ (.served found)
      | none =>
        if s.isLoading ticket.cell then s
        else s.put i ⟨ticket, .waiting⟩ (.loading s.clock none)
    | _ => s
  | .read i =>
    match s.callers[i]? with
    | some ⟨ticket, .loading begun none⟩ =>
      s.put i ⟨ticket, .loading begun none⟩ (.loading begun (some (s.clock, s.source)))
    | _ => s
  | .finish i =>
    match s.callers[i]? with
    | some ⟨ticket, .loading begun (some (read, source))⟩ =>
      let (cache, result) := s.cache.complete ticket.key ticket.cell source
      { s with
        cache
        callers := s.callers.set i ⟨ticket, stageOf s.cache.loads result⟩
        loads := s.loads ++ [⟨i, ticket, begun, read, source.load ticket.key.source⟩] }
    | _ => s
  | .leave i =>
    match s.callers[i]? with
    | some a => if a.stage.isDone then s else s.put i a .gone
    | none => s
  | .invalidate source => { s with cache := s.cache.invalidate source }
  | .change source => { s with source }

/-- One move. -/
def step (s : Sharing) (move : Move) : Sharing := { s.act move with clock := s.clock + 1 }

/-- Some moves, one after the other, from an empty cache. -/
def run (source : WordSource) (moves : List Move) : Sharing := moves.foldl step (start source)

@[simp] theorem run_append_singleton (source : WordSource) (moves : List Move) (move : Move) :
    run source (moves ++ [move]) = (run source moves).step move := by
  simp [run]

variable {s : Sharing} {i j : Nat} {a b : Caller} {cell : Nat}

theorem isLoading_eq_false_iff :
    s.isLoading cell = false ↔
      ∀ a ∈ s.callers, a.ticket.cell = cell → a.stage.isLoading = false := by
  simp [isLoading]

/-! ### What a caller's move can do -/

theorem act_turn_cases (s : Sharing) (i : Nat) :
    s.act (.turn i) = s ∨ ∃ a, s.callers[i]? = some a ∧ a.stage = .waiting ∧
      ((∃ found, s.cache.content a.ticket.cell = some found ∧
          s.act (.turn i) = s.put i a (.served found)) ∨
        (s.cache.content a.ticket.cell = none ∧ s.isLoading a.ticket.cell = false ∧
          s.act (.turn i) = s.put i a (.loading s.clock none))) := by
  unfold act
  dsimp only
  split
  next ticket hget =>
    split
    next found hfound => exact .inr ⟨_, hget, rfl, .inl ⟨found, hfound, rfl⟩⟩
    next hempty =>
      split
      next => exact .inl rfl
      next hfree =>
        exact .inr ⟨_, hget, rfl, .inr ⟨hempty, Bool.eq_false_iff.2 hfree, rfl⟩⟩
  next => exact .inl rfl

theorem act_read_cases (s : Sharing) (i : Nat) :
    s.act (.read i) = s ∨ ∃ a begun, s.callers[i]? = some a ∧ a.stage = .loading begun none ∧
      s.act (.read i) = s.put i a (.loading begun (some (s.clock, s.source))) := by
  unfold act
  dsimp only
  split
  next ticket begun hget => exact .inr ⟨_, begun, hget, rfl, rfl⟩
  next => exact .inl rfl

theorem act_finish (h : s.callers[i]? = some a) {begun read : Nat} {source : WordSource}
    (hstage : a.stage = .loading begun (some (read, source))) :
    s.act (.finish i) =
      { s with
        cache := (s.cache.complete a.ticket.key a.ticket.cell source).1
        callers := s.callers.set i
          ⟨a.ticket, stageOf s.cache.loads (s.cache.complete a.ticket.key a.ticket.cell source).2⟩
        loads := s.loads ++ [⟨i, a.ticket, begun, read, source.load a.ticket.key.source⟩] } := by
  obtain ⟨ticket, stage⟩ := a
  obtain rfl : stage = _ := hstage
  simp only [act, h]

theorem act_finish_cases (s : Sharing) (i : Nat) :
    s.act (.finish i) = s ∨ ∃ a begun read source, s.callers[i]? = some a ∧
      a.stage = .loading begun (some (read, source)) := by
  unfold act
  dsimp only
  split
  next ticket begun read source hget => exact .inr ⟨_, begun, read, source, hget, rfl⟩
  next => exact .inl rfl

theorem act_leave_cases (s : Sharing) (i : Nat) :
    s.act (.leave i) = s ∨ ∃ a, s.callers[i]? = some a ∧ a.stage.isDone = false ∧
      s.act (.leave i) = s.put i a .gone := by
  unfold act
  dsimp only
  split
  next a hget =>
    split
    next => exact .inl rfl
    next hdone => exact .inr ⟨a, hget, Bool.eq_false_iff.2 hdone, rfl⟩
  next => exact .inl rfl

/-! ### A caller that is alone -/

/-- What there is to see for a caller: the cache, the source and how far it has come itself. -/
structure Sees (s : Sharing) (i : Nat) (cache : MatcherCache) (source : WordSource) (a : Caller) :
    Prop where
  cache : s.cache = cache
  source : s.source = source
  caller : s.callers[i]? = some a

namespace Sees

variable {cache : MatcherCache} {source : WordSource} {ticket : Ticket} {begun : Nat}
  {found : CachedMatcher}

theorem put (h : s.Sees i cache source a) (stage : Stage) :
    (s.put i a stage).Sees i cache source { a with stage } := by
  refine ⟨h.cache, h.source, ?_⟩
  rw [Sharing.put, List.getElem?_set_self (List.getElem?_eq_some_iff.1 h.caller).1]

theorem call (s : Sharing) (key : MatcherKey) :
    (s.step (.call key)).Sees s.callers.length (s.cache.enter key).1 s.source
      ⟨⟨key, (s.cache.enter key).2, s.clock⟩, .waiting⟩ :=
  ⟨rfl, rfl, by simp [step, act]⟩

theorem turn_of_content (h : s.Sees i cache source ⟨ticket, .waiting⟩)
    (hfound : cache.content ticket.cell = some found) :
    (s.step (.turn i)).Sees i cache source ⟨ticket, .served found⟩ := by
  obtain ⟨rfl, hsource, hget⟩ := id h
  have hact : s.act (.turn i) = s.put i ⟨ticket, .waiting⟩ (.served found) := by
    simp only [act, hget, hfound]
  obtain ⟨hcache, hsource, hcaller⟩ := hact ▸ h.put (.served found)
  exact ⟨hcache, hsource, hcaller⟩

theorem turn_of_free (h : s.Sees i cache source ⟨ticket, .waiting⟩)
    (hempty : cache.content ticket.cell = none) (hfree : s.isLoading ticket.cell = false) :
    (s.step (.turn i)).Sees i cache source ⟨ticket, .loading s.clock none⟩ := by
  obtain ⟨rfl, hsource, hget⟩ := id h
  have hact : s.act (.turn i) = s.put i ⟨ticket, .waiting⟩ (.loading s.clock none) := by
    simp only [act, hget, hempty, hfree, Bool.false_eq_true, if_false]
  obtain ⟨hcache, hsource, hcaller⟩ := hact ▸ h.put (.loading s.clock none)
  exact ⟨hcache, hsource, hcaller⟩

theorem read (h : s.Sees i cache source ⟨ticket, .loading begun none⟩) :
    (s.step (.read i)).Sees i cache source ⟨ticket, .loading begun (some (s.clock, source))⟩ := by
  obtain ⟨hcache, rfl, hget⟩ := id h
  have hact : s.act (.read i) =
      s.put i ⟨ticket, .loading begun none⟩ (.loading begun (some (s.clock, s.source))) := by
    simp only [act, hget]
  obtain ⟨hcache, hsource, hcaller⟩ := hact ▸ h.put (.loading begun (some (s.clock, s.source)))
  exact ⟨hcache, hsource, hcaller⟩

theorem finish {moment : Nat} {list : WordSource}
    (h : s.Sees i cache source ⟨ticket, .loading begun (some (moment, list))⟩) :
    (s.step (.finish i)).Sees i (cache.complete ticket.key ticket.cell list).1 source
      ⟨ticket, stageOf cache.loads (cache.complete ticket.key ticket.cell list).2⟩ := by
  obtain ⟨rfl, hsource, hget⟩ := h
  rw [step, act_finish hget rfl]
  refine ⟨rfl, hsource, ?_⟩
  rw [List.getElem?_set_self (List.getElem?_eq_some_iff.1 hget).1]

/-- Whoever is served makes no more moves. -/
theorem of_served (h : s.Sees i cache source ⟨ticket, .served found⟩) :
    (s.step (.read i)).Sees i cache source ⟨ticket, .served found⟩ ∧
      (s.step (.finish i)).Sees i cache source ⟨ticket, .served found⟩ := by
  obtain ⟨hcache, hsource, hget⟩ := h
  constructor
  · have hact : s.act (.read i) = s := by simp only [act, hget]
    rw [step, hact]
    exact ⟨hcache, hsource, hget⟩
  · have hact : s.act (.finish i) = s := by simp only [act, hget]
    rw [step, hact]
    exact ⟨hcache, hsource, hget⟩

end Sees

/-- A caller for whose cell nobody is on a load, and who has its turns at once, gets what the cache
gives to a caller that is alone, and leaves the cache behind in the same way. -/
theorem alone_eq_get (s : Sharing) (key : MatcherKey)
    (hfree : s.isLoading (s.cache.enter key).2 = false) :
    let i := s.callers.length
    ([Move.call key, .turn i, .read i, .finish i].foldl step s).Sees i
      (s.cache.get key s.source).1 s.source
      ⟨⟨key, (s.cache.enter key).2, s.clock⟩,
        stageOf s.cache.loads (s.cache.get key s.source).2⟩ := by
  intro i
  have hcall := Sees.call s key
  rw [MatcherCache.get_eq]
  cases hcontent : (s.cache.enter key).1.content (s.cache.enter key).2 with
  | some found =>
    rw [MatcherCache.complete_of_content hcontent]
    exact (hcall.turn_of_content hcontent).of_served.1.of_served.2
  | none =>
    have hfree' : (s.step (.call key)).isLoading (s.cache.enter key).2 = false := by
      rw [isLoading_eq_false_iff] at hfree ⊢
      intro a ha hcell
      rcases List.mem_append.1 ha with ha | ha
      · exact hfree a ha hcell
      · obtain rfl := List.mem_singleton.1 ha
        rfl
    rw [← MatcherCache.loads_enter s.cache key]
    exact ((hcall.turn_of_free hcontent hfree').read).finish

end Sharing

end ModerationGateway.Words
