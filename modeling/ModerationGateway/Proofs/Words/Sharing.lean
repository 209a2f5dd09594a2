import Mathlib.Data.List.Induction
import ModerationGateway.Proofs.Lists
import ModerationGateway.Proofs.Words.Loads
import ModerationGateway.Proofs.Words.Places

/-!
# Sharing the matcher cache

Whatever the callers of the cache do, and whatever happens to the lists and to the cache in the
meantime, a cell is filled once and all who are served on it get the same matcher; it is the one
for their key, from a list that was read after their source was last dropped.

* `sourceAt`: the source at a moment of a run;
* `isPlaced_run`, `isLoaded_run`: who shares a cell, and what the loads have made of it, along every
  run;
* `IsConsistent`, `isConsistent_run`: what callers can rely on.
-/

namespace ModerationGateway.Words.Sharing

variable {s : Sharing} {i : Nat} {a b : Caller} {source : WordSource} {moves : List Move}
  {move : Move}

/-! ### Moments -/

/-- The source at a moment of a run. -/
def sourceAt (source : WordSource) (moves : List Move) (t : Nat) : WordSource :=
  (run source (moves.take t)).source

theorem sourceAt_append {t : Nat} (h : t ≤ moves.length) :
    sourceAt source (moves ++ [move]) t = sourceAt source moves t := by
  rw [sourceAt, List.take_append_of_le_length h, sourceAt]

theorem sourceAt_length (source : WordSource) (moves : List Move) :
    sourceAt source moves moves.length = (run source moves).source := by
  rw [sourceAt, List.take_length]

@[simp] theorem clock_run (source : WordSource) (moves : List Move) :
    (run source moves).clock = moves.length := by
  induction moves using List.reverseRecOn with
  | nil => rfl
  | append_singleton moves move ih => simp [step, ih]

/-! ### Runs -/

/-- The tickets that were given out. -/
def tickets (s : Sharing) : List Ticket := s.callers.map (·.ticket)

theorem tickets_set (hget : s.callers[i]? = some a) (stage : Stage) :
    (s.callers.set i ⟨a.ticket, stage⟩).map (·.ticket) = s.tickets :=
  map_set_of_eq hget (·.ticket) rfl

theorem IsPlaced.step (h : IsPlaced moves s.cache s.tickets) (hclock : s.clock = moves.length)
    (move : Move) : IsPlaced (moves ++ [move]) (s.step move).cache (s.step move).tickets := by
  have hsame (move : Move) (hmove : ∀ name, move ≠ .invalidate name) :
      IsPlaced (moves ++ [move]) s.cache s.tickets := h.other h.tidy rfl rfl hmove
  cases move with
  | call key =>
    have htickets : (s.step (.call key)).tickets =
        s.tickets ++ [⟨key, (s.cache.enter key).2, moves.length⟩] := by
      simp [Sharing.step, act, tickets, hclock]
    rw [htickets]
    exact h.call key
  | turn i =>
    have hturn := hsame (.turn i) fun name hname => by contradiction
    rw [Sharing.step]
    rcases act_turn_cases s i with hact | ⟨a, hget, -, ⟨found, -, hact⟩ | ⟨-, -, hact⟩⟩
    · rwa [hact]
    · rw [hact, tickets, put, tickets_set hget]
      exact hturn
    · rw [hact, tickets, put, tickets_set hget]
      exact hturn
  | read i =>
    have hread := hsame (.read i) fun name hname => by contradiction
    rw [Sharing.step]
    rcases act_read_cases s i with hact | ⟨a, begun, hget, -, hact⟩
    · rwa [hact]
    · rw [hact, tickets, put, tickets_set hget]
      exact hread
  | finish i =>
    rcases act_finish_cases s i with hact | ⟨a, begun, read, source, hget, hstage⟩
    · rw [Sharing.step, hact]
      exact hsame (.finish i) fun name hname => by contradiction
    · rw [Sharing.step, act_finish hget hstage, tickets, tickets_set hget]
      exact h.other (h.tidy.complete _ _ _) (MatcherCache.index_complete _ _ _ _)
        (MatcherCache.size_complete _ _ _ _) fun name hname => by contradiction
  | leave i =>
    have hleave := hsame (.leave i) fun name hname => by contradiction
    rw [Sharing.step]
    rcases act_leave_cases s i with hact | ⟨a, hget, -, hact⟩
    · rwa [hact]
    · rw [hact, tickets, put, tickets_set hget]
      exact hleave
  | invalidate name => exact h.invalidate name
  | change source => exact hsame (.change source) fun name hname => by contradiction

theorem isPlaced_run (source : WordSource) (moves : List Move) :
    IsPlaced moves (run source moves).cache (run source moves).tickets := by
  induction moves using List.reverseRecOn with
  | nil => exact .nil
  | append_singleton moves move ih =>
    rw [run_append_singleton]
    exact ih.step (clock_run source moves) move

theorem isLoaded_run (source : WordSource) (moves : List Move) :
    IsLoaded (sourceAt source moves) (run source moves) := by
  induction moves using List.reverseRecOn with
  | nil => exact isLoaded_start _ source
  | append_singleton moves move ih =>
    have hclock := clock_run source moves
    have hloaded : IsLoaded (sourceAt source (moves ++ [move])) (run source moves) :=
      ih.congr fun t ht => sourceAt_append (by omega)
    have hplaced := isPlaced_run source moves
    rw [run_append_singleton]
    refine hloaded.step ?_ (fun a ha => ?_) move
    · rw [hclock, sourceAt_append (Nat.le_refl _), sourceAt_length]
    · rw [hclock]
      exact hplaced.bound _ (List.mem_map_of_mem ha)

/-! ### What callers can rely on -/

theorem content_of_served (source : WordSource) (moves : List Move)
    (ha : a ∈ (run source moves).callers) {f : CachedMatcher} (hserved : a.stage = .served f) :
    (run source moves).cache.content a.ticket.cell = some f := by
  obtain ⟨i, hi⟩ := List.mem_iff_getElem?.1 ha
  have hfits := (isLoaded_run source moves).stages i a hi
  rwa [Fits, hserved] at hfits

theorem found_eq_of_cell_eq (source : WordSource) (moves : List Move)
    (ha : a ∈ (run source moves).callers) (hb : b ∈ (run source moves).callers)
    {f g : CachedMatcher} (hf : a.stage = .served f) (hg : b.stage = .served g)
    (hcell : a.ticket.cell = b.ticket.cell) : f = g := by
  have hsame := content_of_served source moves ha hf
  rw [hcell, content_of_served source moves hb hg] at hsame
  exact (Option.some.inj hsame).symm

/-- The load from which a caller was served: it was made on a ticket for the same cell and key. -/
theorem exists_load_of_served (source : WordSource) (moves : List Move)
    (ha : a ∈ (run source moves).callers) {f : CachedMatcher} (hserved : a.stage = .served f) :
    ∃ l words, (run source moves).loads[f.load]? = some l ∧ l.outcome = .ok words ∧
      f.matcher = .ofWords words l.ticket.key.mode ∧ l.ticket.key = a.ticket.key ∧
      (∀ t, l.ticket.start < t → t < a.ticket.start →
        moves[t]? ≠ some (.invalidate a.ticket.key.source)) ∧
      IsRecord (sourceAt source moves) (run source moves) f.load l := by
  have hplaced := isPlaced_run source moves
  have hloaded := isLoaded_run source moves
  obtain ⟨l, words, hl, hcell, houtcome, hmatcher⟩ :=
    hloaded.filled _ _ (content_of_served source moves ha hserved)
  have hrecord := hloaded.records _ _ hl
  have hmem : l.ticket ∈ (run source moves).tickets :=
    List.mem_map_of_mem (f := (·.ticket)) (List.mem_of_getElem? hrecord.caller)
  refine ⟨l, words, hl, houtcome, hmatcher, ?_, fun t hlate ht => ?_, hrecord⟩
  · rcases Nat.le_total l.ticket.start a.ticket.start with hle | hle
    · exact ((hplaced.shared _ hmem _ (List.mem_map_of_mem ha) hle).1 hcell).1
    · exact ((hplaced.shared _ (List.mem_map_of_mem ha) _ hmem hle).1 hcell.symm).1.symm
  · have hle : l.ticket.start ≤ a.ticket.start := by omega
    obtain ⟨hkey, hquiet⟩ := (hplaced.shared _ hmem _ (List.mem_map_of_mem ha) hle).1 hcell
    exact hkey ▸ hquiet t hlate ht

theorem load_eq_of_cell_eq (source : WordSource) (moves : List Move) {m n : Nat} {l l' : Load}
    {words words' : List String} (hm : (run source moves).loads[m]? = some l)
    (hn : (run source moves).loads[n]? = some l') (hok : l.outcome = .ok words)
    (hok' : l'.outcome = .ok words') (hcell : l.ticket.cell = l'.ticket.cell) : m = n := by
  have hl := ((isLoaded_run source moves).records m l hm).caller
  have hl' := ((isLoaded_run source moves).records n l' hn).caller
  rw [stageAfter_of_ok hok] at hl
  rw [stageAfter_of_ok hok'] at hl'
  exact congrArg CachedMatcher.load (found_eq_of_cell_eq source moves (List.mem_of_getElem? hl)
    (List.mem_of_getElem? hl') rfl rfl hcell)

/-- The callers that have failed are those of the loads that have failed. -/
theorem failed_iff (source : WordSource) (moves : List Move)
    (hget : (run source moves).callers[i]? = some a) (n : Nat) (fault : Fault) :
    a.stage = .failed n fault ↔
      ∃ l, (run source moves).loads[n]? = some l ∧ l.caller = i ∧ l.outcome = .error fault := by
  constructor
  · intro hstage
    have hfits := (isLoaded_run source moves).stages i a hget
    rwa [Fits, hstage] at hfits
  · rintro ⟨l, hl, rfl, houtcome⟩
    have hcaller := ((isLoaded_run source moves).records n l hl).caller
    rw [hget, stageAfter_of_error houtcome] at hcaller
    rw [Option.some.inj hcaller]

/-- A load that fails changes nothing but its caller. -/
theorem content_finish_of_error {past : Nat → WordSource} (h : IsLoaded past s)
    {list : WordSource} {l : Load} (hends : Ends list s (s.step (.finish i)) l) {fault : Fault}
    (hfault : l.outcome = .error fault) (cell : Nat) :
    (s.step (.finish i)).cache.content cell = s.cache.content cell := by
  rw [hends.content, stageAfter_of_error hfault]
  by_cases hcell : cell = l.ticket.cell
  · rw [if_pos hcell, hcell, (h.of_ends hends).1]
    rfl
  · rw [if_neg hcell]

/-- Nobody is on a load for the cell of a load that has ended. -/
theorem isLoading_finish {past : Nat → WordSource} (h : IsLoaded past s) {list : WordSource}
    {l : Load} (hends : Ends list s (s.step (.finish i)) l) :
    (s.step (.finish i)).isLoading l.ticket.cell = false := by
  rw [isLoading_eq_false_iff]
  intro b hb hcell
  obtain ⟨j, hj⟩ := List.mem_iff_getElem?.1 hb
  by_contra hloading
  rw [Bool.not_eq_false] at hloading
  have hbefore := IsLoaded.isLoading_of_ends hends hj hloading
  -- the caller of the load was the only one on a load for the cell
  have hcaller := h.alone j _ b _ hbefore hends.asked hloading rfl hcell
  rw [hends.callers, hcaller,
    List.getElem?_set_self (List.getElem?_eq_some_iff.1 hends.asked).1] at hj
  rw [← Option.some.inj hj, isLoading_stageAfter] at hloading
  contradiction

/-- What the callers of a cache can rely on after some moves. -/
structure IsConsistent (source : WordSource) (moves : List Move) (s : Sharing) : Prop where
  /-- No cell is loaded twice with success. -/
  once : ∀ (m n : Nat) (l l' : Load) (words words' : List String), s.loads[m]? = some l →
    s.loads[n]? = some l' → l.outcome = .ok words → l'.outcome = .ok words' →
      l.ticket.cell = l'.ticket.cell → m = n
  /-- All who are served on a cell are served the same. -/
  shared : ∀ a ∈ s.callers, ∀ b ∈ s.callers, ∀ f g, a.stage = .served f → b.stage = .served g →
    a.ticket.cell = b.ticket.cell → f = g
  /-- So are all who ask for a key, as long as its source is not dropped. -/
  kept : ∀ a ∈ s.callers, ∀ b ∈ s.callers, ∀ f g, a.stage = .served f → b.stage = .served g →
    a.ticket.key = b.ticket.key → a.ticket.start ≤ b.ticket.start →
      Quiet moves a.ticket.key.source a.ticket.start b.ticket.start → f = g
  /-- Whoever comes after its source was dropped gets nothing from a load begun before. -/
  fresh : ∀ a ∈ s.callers, ∀ f, a.stage = .served f → ∀ t, t < a.ticket.start →
    moves[t]? = some (.invalidate a.ticket.key.source) →
      ∃ l, s.loads[f.load]? = some l ∧ t < l.begun ∧ l.begun < l.read
  /-- What is served has the mode of the key, and a list that its source gave. -/
  made : ∀ a ∈ s.callers, ∀ f, a.stage = .served f → ∃ l words, s.loads[f.load]? = some l ∧
    (sourceAt source moves l.read).load a.ticket.key.source = .ok words ∧
      f.matcher = .ofWords words a.ticket.key.mode ∧ f.matcher.mode = a.ticket.key.mode
  /-- A load that fails is a failure for its own caller, and for nobody else. -/
  failures : ∀ (i : Nat) (a : Caller), s.callers[i]? = some a → ∀ n fault,
    a.stage = .failed n fault ↔
      ∃ l, s.loads[n]? = some l ∧ l.caller = i ∧ l.outcome = .error fault
  /-- It leaves all cells and all other callers as they are, its own cell empty and free. -/
  harmless : ∀ (i : Nat) (a : Caller) (begun read : Nat) (list : WordSource) (fault : Fault),
    s.callers[i]? = some a → a.stage = .loading begun (some (read, list)) →
      list.load a.ticket.key.source = .error fault →
        let s' := s.step (.finish i)
        s'.callers = s.callers.set i ⟨a.ticket, .failed s.loads.length fault⟩ ∧
          s'.cache.index = s.cache.index ∧
          (∀ cell, s'.cache.content cell = s.cache.content cell) ∧
          s'.cache.content a.ticket.cell = none ∧ s'.isLoading a.ticket.cell = false
  /-- The next caller that has its turn on a cell that is empty and free begins another load. -/
  again : ∀ (i : Nat) (a : Caller), s.callers[i]? = some a → a.stage = .waiting →
    s.cache.content a.ticket.cell = none → s.isLoading a.ticket.cell = false →
      (s.step (.turn i)).callers[i]? = some ⟨a.ticket, .loading s.clock none⟩
  /-- Dropping a source is nothing to the callers, the cells and the keys of other sources. -/
  dropped : ∀ name, (s.step (.invalidate name)).callers = s.callers ∧
    (∀ cell, (s.step (.invalidate name)).cache.content cell = s.cache.content cell) ∧
      ∀ key : MatcherKey, key.source ≠ name →
        (s.step (.invalidate name)).cache.index.lookup key = s.cache.index.lookup key
  /-- Whoever comes for a cell that nobody loads, and has all its turns at once, gets what the cache
  gives to a caller that is alone, and leaves the cache behind in the same way. -/
  alone : ∀ key, s.isLoading (s.cache.enter key).2 = false →
    let i := s.callers.length
    ([Move.call key, .turn i, .read i, .finish i].foldl Sharing.step s).Sees i
      (s.cache.get key s.source).1 s.source
      ⟨⟨key, (s.cache.enter key).2, s.clock⟩,
        stageOf s.cache.loads (s.cache.get key s.source).2⟩

/-- Callers can rely on the cache, whatever they and others have done to it. -/
theorem isConsistent_run (source : WordSource) (moves : List Move) :
    IsConsistent source moves (run source moves) := by
  have hplaced := isPlaced_run source moves
  have hloaded := isLoaded_run source moves
  constructor
  case once =>
    exact fun m n l l' words words' hm hn hok hok' hcell =>
      load_eq_of_cell_eq source moves hm hn hok hok' hcell
  case shared =>
    exact fun a ha b hb f g hf hg hcell => found_eq_of_cell_eq source moves ha hb hf hg hcell
  case kept =>
    intro a ha b hb f g hf hg hkey hle hquiet
    apply found_eq_of_cell_eq source moves ha hb hf hg
    apply (hplaced.shared _ (List.mem_map_of_mem ha) _ (List.mem_map_of_mem hb) hle).2
    exact ⟨hkey, hquiet⟩
  case fresh =>
    intro a ha f hserved t ht hdrop
    obtain ⟨l, words, hl, -, -, -, hquiet, hrecord⟩ := exists_load_of_served source moves ha hserved
    have hlate : ¬l.ticket.start < t := fun hearly => hquiet t hearly ht hdrop
    have hbegun := hrecord.begun
    exact ⟨l, hl, by omega, hrecord.read⟩
  case made =>
    intro a ha f hserved
    obtain ⟨l, words, hl, houtcome, hmatcher, hkey, -, hrecord⟩ :=
      exists_load_of_served source moves ha hserved
    have hload := hrecord.outcome
    rw [houtcome, hkey] at hload
    rw [hkey] at hmatcher
    exact ⟨l, words, hl, hload.symm, hmatcher, by rw [hmatcher]; rfl⟩
  case failures => exact fun i a hget n fault => failed_iff source moves hget n fault
  case harmless =>
    intro i a begun read list fault hget hstage hload s'
    obtain ⟨ticket, stage⟩ := a
    obtain rfl : stage = .loading begun (some (read, list)) := hstage
    have hempty := (hloaded.stages i _ hget).1
    have hends := ends_finish hget hempty
      (hplaced.bound _ (List.mem_map_of_mem (List.mem_of_getElem? hget))).1
    have hsame := content_finish_of_error hloaded hends hload
    refine ⟨?_, ?_, hsame, (hsame _).trans hempty, isLoading_finish hloaded hends⟩
    · have hcallers := hends.callers
      rw [stageAfter_of_error hload, ← hloaded.counted] at hcallers
      exact hcallers
    · show ((run source moves).step (.finish i)).cache.index = _
      rw [Sharing.step, act_finish hget rfl]
      exact MatcherCache.index_complete _ _ _ _
  case again =>
    intro i a hget hstage hempty hfree
    have hsees : (run source moves).Sees i (run source moves).cache (run source moves).source
        ⟨a.ticket, .waiting⟩ := ⟨rfl, rfl, by rw [hget, ← hstage]⟩
    exact (hsees.turn_of_free hempty hfree).caller
  case dropped =>
    intro name
    refine ⟨rfl, fun _ => rfl, fun key hkey => ?_⟩
    show ((run source moves).cache.invalidate name).index.lookup key = _
    rw [MatcherCache.lookup_invalidate, if_neg hkey]
  case alone => exact fun key hfree => alone_eq_get _ key hfree

/-- The first load fails, the second caller makes another and the third joins it; the fourth comes
after the source was dropped. -/
def fourCallers : List Move :=
  let key : MatcherKey := ⟨"default", "1", .firstPerPosition⟩
  [.call key, .call key, .turn 0, .turn 1, .read 0, .finish 0, .turn 1,
    .change (.lists [("default", ["word"])]), .read 1, .call key, .finish 1, .turn 2,
    .invalidate "default", .call key, .turn 3, .read 3, .finish 3]

example : ((run (.lists []) fourCallers).callers.map fun a => a.stage.found?.map (·.load)) =
    [none, some 1, some 1, some 2] := by
  decide +kernel

end ModerationGateway.Words.Sharing
