import ModerationGateway.Proofs.Words.Callers

/-!
# Loads of the matcher cache

What callers have come to, and the loads that are over, agree with what is in the cells: a caller on
a load has begun it after it came and is the only one for its cell, which is empty; whoever is
served has what is in its cell; and that comes from the one load that filled it.

* `stageAfter`, `Fits`, `IsRecord`: what a load makes of its caller, and what stages and loads say;
* `Grows`: what is settled and does not change;
* `IsLoaded`: all stages and loads agree with the cells;
* `Ends`, `ends_finish`: what changes when a load is over;
* `IsLoaded.put`, `IsLoaded.finish`, `IsLoaded.call`, `IsLoaded.step`: every move keeps it.
-/

namespace ModerationGateway.Words.Sharing

variable {past : Nat → WordSource} {s s' : Sharing} {i j n : Nat} {a b : Caller} {l : Load}
  {source : WordSource} {moves : List Move} {move : Move}

/-- What stands in a list after one of its elements was replaced. -/
theorem getElem?_set_cases {α : Type} {xs : List α} {x y : α} (h : (xs.set i x)[j]? = some y) :
    j = i ∧ y = x ∨ j ≠ i ∧ xs[j]? = some y := by
  rw [List.getElem?_set] at h
  split at h
  · next hij =>
    split at h
    · exact .inl ⟨hij.symm, (Option.some.inj h).symm⟩
    · contradiction
  · next hij => exact .inr ⟨Ne.symm hij, h⟩

/-! ### What stages and loads say -/

/-- What becomes of the caller of a load with this number. -/
def stageAfter (n : Nat) (l : Load) : Stage :=
  match l.outcome with
  | .ok words => .served ⟨n, .ofWords words l.ticket.key.mode⟩
  | .error fault => .failed n fault

theorem stageAfter_of_ok {words : List String} (h : l.outcome = .ok words) (n : Nat) :
    stageAfter n l = .served ⟨n, .ofWords words l.ticket.key.mode⟩ := by
  simp only [stageAfter, h]

theorem stageAfter_of_error {fault : Fault} (h : l.outcome = .error fault) (n : Nat) :
    stageAfter n l = .failed n fault := by
  simp only [stageAfter, h]

theorem isDone_stageAfter (n : Nat) (l : Load) : (stageAfter n l).isDone = true := by
  unfold stageAfter
  split <;> rfl

theorem isLoading_stageAfter (n : Nat) (l : Load) : (stageAfter n l).isLoading = false := by
  unfold stageAfter
  split <;> rfl

/-- The stage of a caller agrees with the cache, the loads that are over and the sources that there
were. -/
def Fits (past : Nat → WordSource) (s : Sharing) (i : Nat) (a : Caller) : Prop :=
  match a.stage with
  | .waiting | .gone => True
  | .loading begun list =>
    s.cache.content a.ticket.cell = none ∧ a.ticket.start < begun ∧ begun < s.clock ∧
      ∀ read source, list = some (read, source) →
        begun < read ∧ read < s.clock ∧ source = past read
  | .served found => s.cache.content a.ticket.cell = some found
  | .failed n fault => ∃ l, s.loads[n]? = some l ∧ l.caller = i ∧ l.outcome = .error fault

/-- A load that is over was made by a caller after it came, with a list that there was in between,
and has made of the caller what it is now. -/
structure IsRecord (past : Nat → WordSource) (s : Sharing) (n : Nat) (l : Load) : Prop where
  caller : s.callers[l.caller]? = some ⟨l.ticket, stageAfter n l⟩
  begun : l.ticket.start < l.begun
  read : l.begun < l.read
  done : l.read < s.clock
  outcome : l.outcome = (past l.read).load l.ticket.key.source

/-- Nothing that was settled changes. -/
structure Grows (s s' : Sharing) : Prop where
  clock : s.clock ≤ s'.clock
  full : ∀ cell found, s.cache.content cell = some found → s'.cache.content cell = some found
  loads : ∀ (n : Nat) (l : Load), s.loads[n]? = some l → s'.loads[n]? = some l
  done : ∀ (i : Nat) (a : Caller), s.callers[i]? = some a → a.stage.isDone = true →
    s'.callers[i]? = some a

theorem Fits.mono (h : Fits past s i a) (hgrows : Grows s s')
    (hempty : a.stage.isLoading = true →
      s'.cache.content a.ticket.cell = s.cache.content a.ticket.cell) : Fits past s' i a := by
  obtain ⟨ticket, stage⟩ := a
  cases stage with
  | waiting => trivial
  | gone => trivial
  | served found => exact hgrows.full _ _ h
  | failed n fault =>
    obtain ⟨l, hl, hcaller, houtcome⟩ := h
    exact ⟨l, hgrows.loads n l hl, hcaller, houtcome⟩
  | loading begun list =>
    obtain ⟨hnone, hstart, hbegun, hlist⟩ := h
    have hclock := hgrows.clock
    refine ⟨(hempty rfl).trans hnone, hstart, by omega, fun read source hread => ?_⟩
    obtain ⟨hlt, hover, hsource⟩ := hlist read source hread
    exact ⟨hlt, by omega, hsource⟩

theorem IsRecord.mono (h : IsRecord past s n l) (hgrows : Grows s s') : IsRecord past s' n l :=
  ⟨hgrows.done _ _ h.caller (isDone_stageAfter n l), h.begun, h.read,
    Nat.lt_of_lt_of_le h.done hgrows.clock, h.outcome⟩

/-- Every caller and every load that is over agree with the cache, and at most one caller is on a
load for each cell. -/
structure IsLoaded (past : Nat → WordSource) (s : Sharing) : Prop where
  stages : ∀ (i : Nat) (a : Caller), s.callers[i]? = some a → Fits past s i a
  alone : ∀ (i j : Nat) (a b : Caller), s.callers[i]? = some a → s.callers[j]? = some b →
    a.stage.isLoading = true → b.stage.isLoading = true → a.ticket.cell = b.ticket.cell → i = j
  counted : s.loads.length = s.cache.loads
  filled : ∀ cell found, s.cache.content cell = some found → ∃ (l : Load) (words : List String),
    s.loads[found.load]? = some l ∧ l.ticket.cell = cell ∧ l.outcome = .ok words ∧
      found.matcher = .ofWords words l.ticket.key.mode
  records : ∀ (n : Nat) (l : Load), s.loads[n]? = some l → IsRecord past s n l

theorem isLoaded_start (past : Nat → WordSource) (source : WordSource) :
    IsLoaded past (start source) where
  stages := fun i a h => by simp [start] at h
  alone := fun i j a b h => by simp [start] at h
  counted := rfl
  filled := fun cell found h => by simp [start, MatcherCache.empty, MatcherCache.content] at h
  records := fun n l h => by simp [start] at h

/-- A load from a list ends, and what changes then. -/
structure Ends (list : WordSource) (s s' : Sharing) (l : Load) : Prop where
  asked : s.callers[l.caller]? = some ⟨l.ticket, .loading l.begun (some (l.read, list))⟩
  outcome : l.outcome = list.load l.ticket.key.source
  clock : s'.clock = s.clock + 1
  counted : s'.cache.loads = s.cache.loads + 1
  content : ∀ cell, s'.cache.content cell =
    if cell = l.ticket.cell then (stageAfter s.cache.loads l).found? else s.cache.content cell
  callers : s'.callers = s.callers.set l.caller ⟨l.ticket, stageAfter s.cache.loads l⟩
  loads : s'.loads = s.loads ++ [l]

/-- The load of a caller for an empty cell ends. -/
theorem ends_finish {ticket : Ticket} {begun read : Nat} {list : WordSource}
    (hget : s.callers[i]? = some ⟨ticket, .loading begun (some (read, list))⟩)
    (hempty : s.cache.content ticket.cell = none) (hcell : ticket.cell < s.cache.cells.size) :
    Ends list s (s.step (.finish i)) ⟨i, ticket, begun, read, list.load ticket.key.source⟩ := by
  have hcontent := MatcherCache.content_complete hcell ticket.key list
  rw [step, act_finish hget rfl]
  cases hload : list.load ticket.key.source with
  | error fault =>
    rw [MatcherCache.complete_of_error hempty hload] at hcontent ⊢
    exact ⟨hget, hload.symm, rfl, rfl, hcontent, rfl, rfl⟩
  | ok words =>
    rw [MatcherCache.complete_of_ok hempty hload] at hcontent ⊢
    exact ⟨hget, hload.symm, rfl, rfl, hcontent, rfl, rfl⟩

/-- Whoever is done stays what it is when one who is not gets on. -/
theorem getElem?_set_of_isDone (hget : s.callers[i]? = some a) (hopen : a.stage.isDone = false)
    (hb : s.callers[j]? = some b) (hdone : b.stage.isDone = true) (c : Caller) :
    (s.callers.set i c)[j]? = some b := by
  have hne : i ≠ j := by
    rintro rfl
    rw [hget] at hb
    obtain rfl := Option.some.inj hb
    rw [hopen] at hdone
    contradiction
  rw [List.getElem?_set_ne hne, hb]

namespace IsLoaded

/-- Only the past matters. -/
theorem congr (h : IsLoaded past s) {past' : Nat → WordSource}
    (hpast : ∀ t, t < s.clock → past' t = past t) : IsLoaded past' s := by
  constructor
  case alone => exact h.alone
  case counted => exact h.counted
  case filled => exact h.filled
  case stages =>
    intro i a hget
    have hfits := h.stages i a hget
    obtain ⟨ticket, stage⟩ := a
    cases stage with
    | loading begun list =>
      obtain ⟨hnone, hstart, hbegun, hlist⟩ := hfits
      refine ⟨hnone, hstart, hbegun, fun read source hread => ?_⟩
      obtain ⟨hlt, hover, hsource⟩ := hlist read source hread
      exact ⟨hlt, hover, hsource.trans (hpast read hover).symm⟩
    | _ => exact hfits
  case records =>
    intro n l hl
    have hrecord := h.records n l hl
    refine ⟨hrecord.caller, hrecord.begun, hrecord.read, hrecord.done, ?_⟩
    rw [hpast _ hrecord.done]
    exact hrecord.outcome

/-- A move that fills no cell and ends no load. -/
theorem of_same (h : IsLoaded past s) (hgrows : Grows s s')
    (hcontent : ∀ cell, s'.cache.content cell = s.cache.content cell)
    (hloads : s'.loads = s.loads) (hcount : s'.cache.loads = s.cache.loads)
    (hstages : ∀ (i : Nat) (a : Caller), s'.callers[i]? = some a →
      s.callers[i]? = some a ∨ Fits past s' i a)
    (halone : ∀ (i j : Nat) (a b : Caller), s'.callers[i]? = some a → s'.callers[j]? = some b →
      a.stage.isLoading = true → b.stage.isLoading = true → a.ticket.cell = b.ticket.cell →
        i = j) : IsLoaded past s' := by
  constructor
  case alone => exact halone
  case counted => rw [hloads, hcount, h.counted]
  case stages =>
    intro i a hget
    rcases hstages i a hget with hold | hfits
    · exact (h.stages i a hold).mono hgrows fun _ => hcontent _
    · exact hfits
  case filled =>
    intro cell found hfound
    rw [hcontent] at hfound
    rw [hloads]
    exact h.filled cell found hfound
  case records =>
    intro n l hl
    rw [hloads] at hl
    exact (h.records n l hl).mono hgrows

/-- A caller gets on, without a load that is over. -/
theorem put (h : IsLoaded past s) (hget : s.callers[i]? = some a) (hopen : a.stage.isDone = false)
    {stage : Stage}
    (hfits : Fits past { s.put i a stage with clock := s.clock + 1 } i { a with stage })
    (hfree : stage.isLoading = true →
      a.stage.isLoading = true ∨ s.isLoading a.ticket.cell = false) :
    IsLoaded past { s.put i a stage with clock := s.clock + 1 } := by
  -- nobody else is on a load for the cell if the caller is on one now
  have hothers : stage.isLoading = true → ∀ j b, j ≠ i → s.callers[j]? = some b →
      b.stage.isLoading = true → b.ticket.cell ≠ a.ticket.cell := by
    intro hstage j b hj hb hloading hcell
    rcases hfree hstage with ha | hnone
    · exact hj (h.alone j i b a hb hget hloading ha hcell)
    · have hidle := isLoading_eq_false_iff.1 hnone b (List.mem_of_getElem? hb) hcell
      rw [hloading] at hidle
      contradiction
  refine h.of_same ⟨Nat.le_succ _, fun _ _ => id, fun _ _ => id, fun j b hb hdone => ?_⟩
    (fun _ => rfl) rfl rfl (fun j b hb => ?_) (fun j k b c hb hc hbl hcl hcell => ?_)
  · exact getElem?_set_of_isDone hget hopen hb hdone _
  · rcases getElem?_set_cases hb with ⟨rfl, rfl⟩ | ⟨-, hb⟩
    · exact .inr hfits
    · exact .inl hb
  · rcases getElem?_set_cases hb with ⟨hj, rfl⟩ | ⟨hj, hb'⟩ <;>
      rcases getElem?_set_cases hc with ⟨hk, rfl⟩ | ⟨hk, hc'⟩
    · rw [hj, hk]
    · exact absurd hcell.symm (hothers hbl k c hk hc' hcl)
    · exact absurd hcell (hothers hcl j b hj hb' hbl)
    · exact h.alone j k b c hb' hc' hbl hcl hcell

section Ends

variable {list : WordSource}

theorem getElem?_of_ends (h : IsLoaded past s) (hends : Ends list s s' l) :
    s'.loads[s.cache.loads]? = some l := by
  rw [hends.loads, ← h.counted, List.getElem?_concat_length]

/-- What the caller of a load that ends says. -/
theorem of_ends (h : IsLoaded past s) (hends : Ends list s s' l) :
    s.cache.content l.ticket.cell = none ∧ l.ticket.start < l.begun ∧ l.begun < l.read ∧
      l.read < s.clock ∧ list = past l.read := by
  obtain ⟨hempty, hstart, -, hlist⟩ := h.stages l.caller _ hends.asked
  obtain ⟨hlt, hread, hpast⟩ := hlist l.read list rfl
  exact ⟨hempty, hstart, hlt, hread, hpast⟩

theorem grows_of_ends (h : IsLoaded past s) (hends : Ends list s s' l) : Grows s s' := by
  have hempty := (h.of_ends hends).1
  constructor
  case clock => exact hends.clock ▸ Nat.le_succ _
  case full =>
    intro cell found hfound
    rw [hends.content, if_neg fun heq => ?_, hfound]
    rw [heq, hempty] at hfound
    contradiction
  case loads =>
    intro n l' hl'
    rw [hends.loads, List.getElem?_append_left (List.getElem?_eq_some_iff.1 hl').1, hl']
  case done =>
    intro j b hb hdone
    rw [hends.callers]
    exact getElem?_set_of_isDone hends.asked rfl hb hdone _

/-- The caller of the load is served or has failed, and the others are where they were. -/
theorem fits_of_ends (h : IsLoaded past s) (hends : Ends list s s' l)
    (hb : s'.callers[j]? = some b) : Fits past s' j b := by
  rw [hends.callers] at hb
  rcases getElem?_set_cases hb with ⟨rfl, rfl⟩ | ⟨hj, hb⟩
  · have hcontent := hends.content l.ticket.cell
    rw [if_pos rfl] at hcontent
    cases houtcome : l.outcome with
    | ok words =>
      rw [stageAfter_of_ok houtcome] at hcontent ⊢
      exact hcontent
    | error fault =>
      rw [stageAfter_of_error houtcome]
      exact ⟨l, h.getElem?_of_ends hends, rfl, houtcome⟩
  · refine (h.stages j b hb).mono (h.grows_of_ends hends) fun hloading => ?_
    rw [hends.content, if_neg fun hcell => hj (h.alone j _ b _ hb hends.asked hloading rfl hcell)]

/-- Whoever is on a load after one has ended was on it before. -/
theorem isLoading_of_ends (hends : Ends list s s' l) (hb : s'.callers[j]? = some b)
    (hloading : b.stage.isLoading = true) : s.callers[j]? = some b := by
  rw [hends.callers] at hb
  rcases getElem?_set_cases hb with ⟨-, rfl⟩ | ⟨-, hold⟩
  · rw [isLoading_stageAfter] at hloading
    contradiction
  · exact hold

/-- What a cell holds after a load is what it held, or comes from this load. -/
theorem filled_of_ends (h : IsLoaded past s) (hends : Ends list s s' l)
    {cell : Nat} {found : CachedMatcher} (hfound : s'.cache.content cell = some found) :
    ∃ (l' : Load) (words : List String), s'.loads[found.load]? = some l' ∧
      l'.ticket.cell = cell ∧ l'.outcome = .ok words ∧
        found.matcher = .ofWords words l'.ticket.key.mode := by
  rw [hends.content] at hfound
  by_cases hcell : cell = l.ticket.cell
  · rw [if_pos hcell] at hfound
    cases houtcome : l.outcome with
    | ok words =>
      rw [stageAfter_of_ok houtcome] at hfound
      obtain rfl := Option.some.inj hfound
      exact ⟨l, words, h.getElem?_of_ends hends, hcell.symm, houtcome, rfl⟩
    | error fault =>
      rw [stageAfter_of_error houtcome] at hfound
      contradiction
  · rw [if_neg hcell] at hfound
    obtain ⟨l', words, hl', hrest⟩ := h.filled cell found hfound
    exact ⟨l', words, (h.grows_of_ends hends).loads _ _ hl', hrest⟩

theorem isRecord_of_ends (h : IsLoaded past s) (hends : Ends list s s' l) {l' : Load}
    (hl' : s'.loads[n]? = some l') : IsRecord past s' n l' := by
  rw [hends.loads] at hl'
  by_cases hn : n < s.loads.length
  · rw [List.getElem?_append_left hn] at hl'
    exact (h.records n l' hl').mono (h.grows_of_ends hends)
  · have hlast : n = s.cache.loads := by
      have hlt := (List.getElem?_eq_some_iff.1 hl').1
      have hcounted := h.counted
      rw [List.length_append, List.length_singleton] at hlt
      omega
    rw [hlast, ← hends.loads, h.getElem?_of_ends hends] at hl'
    obtain rfl := Option.some.inj hl'
    obtain ⟨-, hstart, hlt, hread, hpast⟩ := h.of_ends hends
    have hclock := hends.clock
    refine ⟨?_, hstart, hlt, by omega, by rw [hends.outcome, hpast]⟩
    rw [hends.callers, hlast, List.getElem?_set_self (List.getElem?_eq_some_iff.1 hends.asked).1]

end Ends

/-- A load is over: its caller is served or has failed, and in the one case the cell is filled. -/
theorem finish (h : IsLoaded past s) (hget : s.callers[i]? = some a) {begun read : Nat}
    {list : WordSource} (hstage : a.stage = .loading begun (some (read, list)))
    (hcell : a.ticket.cell < s.cache.cells.size) : IsLoaded past (s.step (.finish i)) := by
  obtain ⟨ticket, stage⟩ := a
  obtain rfl : stage = .loading begun (some (read, list)) := hstage
  have hends := ends_finish hget (h.stages i _ hget).1 hcell
  constructor
  case stages => exact fun j b hb => h.fits_of_ends hends hb
  case filled => exact fun cell found hfound => h.filled_of_ends hends hfound
  case records => exact fun n l' hl' => h.isRecord_of_ends hends hl'
  case counted =>
    rw [hends.loads, hends.counted, List.length_append, h.counted, List.length_singleton]
  case alone =>
    intro j k b c hb hc hbl hcl
    exact h.alone j k b c (isLoading_of_ends hends hb hbl) (isLoading_of_ends hends hc hcl) hbl hcl

/-- A move that does nothing. -/
theorem tick (h : IsLoaded past s) : IsLoaded past { s with clock := s.clock + 1 } :=
  h.of_same ⟨Nat.le_succ _, fun _ _ => id, fun _ _ => id, fun _ _ hget _ => hget⟩ (fun _ => rfl)
    rfl rfl (fun _ _ => .inl) h.alone

theorem call (h : IsLoaded past s) (key : MatcherKey) : IsLoaded past (s.step (.call key)) := by
  have hold : ∀ (j : Nat) (b : Caller), (s.step (.call key)).callers[j]? = some b →
      s.callers[j]? = some b ∨ b.stage = .waiting := by
    intro j b hb
    rcases Nat.lt_or_ge j s.callers.length with hj | hj
    · exact .inl ((List.getElem?_append_left hj).symm.trans hb)
    · right
      have hmem := List.mem_of_getElem? ((List.getElem?_append_right hj).symm.trans hb)
      rw [List.mem_singleton.1 hmem]
  refine h.of_same ⟨Nat.le_succ _, fun cell found hfound => ?_, fun _ _ => id,
    fun j b hb _ => ?_⟩ (MatcherCache.content_enter s.cache key) rfl
    (MatcherCache.loads_enter s.cache key) (fun j b hb => ?_)
    (fun j k b c hb hc hbl hcl hcell => ?_)
  · exact (MatcherCache.content_enter s.cache key cell).trans hfound
  · exact (List.getElem?_append_left (List.getElem?_eq_some_iff.1 hb).1).trans hb
  · refine (hold j b hb).imp_right fun hwaiting => ?_
    rw [Fits, hwaiting]
    trivial
  · rcases hold j b hb with hb | hwaiting
    · rcases hold k c hc with hc | hwaiting
      · exact h.alone j k b c hb hc hbl hcl hcell
      · rw [hwaiting] at hcl
        contradiction
    · rw [hwaiting] at hbl
      contradiction

/-- Every move keeps the callers and the loads in agreement with the cache. -/
theorem step (h : IsLoaded past s) (hpast : past s.clock = s.source)
    (hplaced : ∀ a ∈ s.callers, a.ticket.cell < s.cache.cells.size ∧ a.ticket.start < s.clock)
    (move : Move) : IsLoaded past (s.step move) := by
  cases move with
  | call key => exact h.call key
  | turn i =>
    rw [Sharing.step]
    rcases act_turn_cases s i with hact | ⟨a, hget, hstage, ⟨found, hfound, hact⟩ | hact⟩
    · rw [hact]
      exact h.tick
    · rw [hact]
      exact h.put hget (by rw [hstage]; rfl) hfound fun hloading => by contradiction
    · obtain ⟨hempty, hfree, hact⟩ := hact
      have hstart := (hplaced a (List.mem_of_getElem? hget)).2
      rw [hact]
      exact h.put hget (by rw [hstage]; rfl)
        ⟨hempty, hstart, Nat.lt_succ_self _, fun _ _ hread => by contradiction⟩
        fun _ => .inr hfree
  | read i =>
    rw [Sharing.step]
    rcases act_read_cases s i with hact | ⟨a, begun, hget, hstage, hact⟩
    · rw [hact]
      exact h.tick
    · have hfits := h.stages i a hget
      rw [Fits, hstage] at hfits
      obtain ⟨hempty, hstart, hbegun, -⟩ := hfits
      rw [hact]
      refine h.put hget (by rw [hstage]; rfl)
        ⟨hempty, hstart, Nat.lt_succ_of_lt hbegun, fun read source hread => ?_⟩
        fun _ => .inl (by rw [hstage]; rfl)
      obtain ⟨rfl, rfl⟩ := Prod.mk.inj (Option.some.inj hread)
      exact ⟨hbegun, Nat.lt_succ_self _, hpast.symm⟩
  | finish i =>
    rcases act_finish_cases s i with hact | ⟨a, begun, read, source, hget, hstage⟩
    · rw [Sharing.step, hact]
      exact h.tick
    · exact h.finish hget hstage (hplaced a (List.mem_of_getElem? hget)).1
  | leave i =>
    rw [Sharing.step]
    rcases act_leave_cases s i with hact | ⟨a, hget, hopen, hact⟩
    · rw [hact]
      exact h.tick
    · rw [hact]
      exact h.put hget hopen trivial fun hloading => by contradiction
  | invalidate name =>
    exact h.of_same ⟨Nat.le_succ _, fun _ _ => id, fun _ _ => id, fun _ _ hget _ => hget⟩
      (fun _ => rfl) rfl rfl (fun _ _ => .inl) h.alone
  | change source =>
    exact h.of_same ⟨Nat.le_succ _, fun _ _ => id, fun _ _ => id, fun _ _ hget _ => hget⟩
      (fun _ => rfl) rfl rfl (fun _ _ => .inl) h.alone

end IsLoaded

end ModerationGateway.Words.Sharing
