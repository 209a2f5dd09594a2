import ModerationGateway.Words.Cache

/-!
# The cells of the matcher cache

* `lookup_enter`, `content_enter`: a caller takes hold of a cell;
* `complete_of_content`, `complete_of_error`, `complete_of_ok`, `content_complete`: its turn on
  the cell;
* `lookup_invalidate`: a source is dropped;
* `IsTidy`: no two keys share a cell, and every cell in use was made;
* `IsFaithful`: while the lists stay as they are, what the cells hold is what a load would give;
* `Offers`, `get_of_offers`: the words of which a caller gets the matcher.
-/

namespace ModerationGateway.Words.MatcherCache

variable {c : MatcherCache} {key other : MatcherKey} {cell : Nat} {source : WordSource}
  {found : CachedMatcher} {words : List String}

/-! ### Taking hold of a cell -/

theorem enter_of_lookup (h : c.index.lookup key = some cell) : c.enter key = (c, cell) := by
  simp only [enter, h]

theorem enter_of_lookup_none (h : c.index.lookup key = none) :
    c.enter key =
      ({ c with cells := c.cells.push none, index := c.index ++ [(key, c.cells.size)] },
        c.cells.size) := by
  simp only [enter, h]

/-- The key has the cell that was taken hold of, and every other key has what it had. -/
theorem lookup_enter (c : MatcherCache) (key other : MatcherKey) :
    (c.enter key).1.index.lookup other =
      if other = key then some (c.enter key).2 else c.index.lookup other := by
  cases h : c.index.lookup key with
  | some cell =>
    rw [enter_of_lookup h]
    by_cases hother : other = key
    · rw [if_pos hother, hother, h]
    · rw [if_neg hother]
  | none =>
    rw [enter_of_lookup_none h]
    by_cases hother : other = key
    · subst hother
      simp [List.lookup_append, h]
    · have hbeq : (other == key) = false := beq_eq_false_iff_ne.2 hother
      simp [List.lookup_append, List.lookup_cons, hother, hbeq]

/-- A new cell is empty, and no other cell changes. -/
@[simp] theorem content_enter (c : MatcherCache) (key : MatcherKey) (cell : Nat) :
    (c.enter key).1.content cell = c.content cell := by
  cases h : c.index.lookup key with
  | some old => rw [enter_of_lookup h]
  | none =>
    rw [enter_of_lookup_none h]
    rcases Nat.lt_trichotomy cell c.cells.size with hcell | hcell | hcell
    · simp [content, Array.getElem?_push, Nat.ne_of_lt hcell]
    · simp [content, hcell]
    · have hne : cell ≠ c.cells.size := Nat.ne_of_gt hcell
      simp [content, Array.getElem?_push, hne]

@[simp] theorem loads_enter (c : MatcherCache) (key : MatcherKey) :
    (c.enter key).1.loads = c.loads := by
  cases h : c.index.lookup key with
  | some old => rw [enter_of_lookup h]
  | none => rw [enter_of_lookup_none h]

theorem size_le_size_enter (c : MatcherCache) (key : MatcherKey) :
    c.cells.size ≤ (c.enter key).1.cells.size := by
  cases h : c.index.lookup key with
  | some old => simp [enter_of_lookup h]
  | none => simp [enter_of_lookup_none h]

/-! ### A turn on a cell -/

/-- A full cell is not loaded again. -/
theorem complete_of_content (h : c.content cell = some found) (key : MatcherKey)
    (source : WordSource) : c.complete key cell source = (c, .ok found) := by
  simp only [complete, h]

/-- A load that fails is counted and leaves the cells as they are. -/
theorem complete_of_error (hempty : c.content cell = none) {fault : Fault}
    (hload : source.load key.source = .error fault) :
    c.complete key cell source = ({ c with loads := c.loads + 1 }, .error fault) := by
  simp only [complete, hempty, hload]

/-- A load that succeeds fills the cell. -/
theorem complete_of_ok (hempty : c.content cell = none)
    (hload : source.load key.source = .ok words) :
    c.complete key cell source =
      ({ c with
          cells := c.cells.setIfInBounds cell (some ⟨c.loads, .ofWords words key.mode⟩)
          loads := c.loads + 1 },
        .ok ⟨c.loads, .ofWords words key.mode⟩) := by
  simp only [complete, hempty, hload]

/-- A caller's turn leaves the index as it is. -/
@[simp] theorem index_complete (c : MatcherCache) (key : MatcherKey) (cell : Nat)
    (source : WordSource) : (c.complete key cell source).1.index = c.index := by
  unfold complete
  split
  · rfl
  · split <;> rfl

@[simp] theorem size_complete (c : MatcherCache) (key : MatcherKey) (cell : Nat)
    (source : WordSource) : (c.complete key cell source).1.cells.size = c.cells.size := by
  unfold complete
  split
  · rfl
  · split
    · rfl
    · simp

/-- What the cells hold after one of them is filled. -/
theorem content_setIfInBounds (hcell : cell < c.cells.size) (found : CachedMatcher)
    (loads i : Nat) :
    content { c with cells := c.cells.setIfInBounds cell (some found), loads } i =
      if i = cell then some found else c.content i := by
  by_cases hi : i = cell
  · subst hi
    simp [content, hcell]
  · simp [content, Ne.symm hi, hi]

/-- What a caller gets is in the cell, and no other cell changes. -/
theorem content_complete (hcell : cell < c.cells.size) (key : MatcherKey) (source : WordSource)
    (i : Nat) :
    (c.complete key cell source).1.content i =
      if i = cell then (c.complete key cell source).2.toOption else c.content i := by
  have hsame (h : c.content cell = none) :
      c.content i = if i = cell then none else c.content i := by
    by_cases hi : i = cell
    · rw [if_pos hi, hi, h]
    · rw [if_neg hi]
  cases hcontent : c.content cell with
  | some found =>
    rw [complete_of_content hcontent]
    by_cases hi : i = cell
    · rw [if_pos hi, hi, hcontent]
      rfl
    · rw [if_neg hi]
  | none =>
    cases hload : source.load key.source with
    | error fault =>
      rw [complete_of_error hcontent hload]
      exact hsame hcontent
    | ok words =>
      rw [complete_of_ok hcontent hload, content_setIfInBounds hcell]
      rfl

theorem get_eq (c : MatcherCache) (key : MatcherKey) (source : WordSource) :
    c.get key source = (c.enter key).1.complete key (c.enter key).2 source := rfl

/-! ### Dropping a source -/

/-- No key of the source has a cell any more, and every other key has what it had. -/
theorem lookup_invalidate (c : MatcherCache) (source : String) (key : MatcherKey) :
    (c.invalidate source).index.lookup key =
      if key.source = source then none else c.index.lookup key := by
  show (c.index.filter fun entry => entry.1.source != source).lookup key = _
  induction c.index with
  | nil => simp
  | cons entry rest ih =>
    obtain ⟨first, cell⟩ := entry
    rw [List.filter_cons, List.lookup_cons]
    by_cases hkey : key = first
    · subst hkey
      by_cases hsource : key.source = source
      · simp [hsource, ih]
      · simp [hsource]
    · have hbeq : (key == first) = false := beq_eq_false_iff_ne.2 hkey
      by_cases hfirst : first.source = source
      · simp [hfirst, hbeq, ih]
      · simp [hfirst, hbeq, List.lookup_cons, ih]

/-! ### Tidy caches -/

/-- No two keys share a cell, and every cell in use was made. -/
structure IsTidy (c : MatcherCache) : Prop where
  bound : ∀ {key cell}, c.index.lookup key = some cell → cell < c.cells.size
  inj : ∀ {key other cell}, c.index.lookup key = some cell → c.index.lookup other = some cell →
    key = other

namespace IsTidy

theorem empty : IsTidy empty :=
  ⟨fun h => by simp [MatcherCache.empty] at h, fun h => by simp [MatcherCache.empty] at h⟩

/-- The cell that is taken hold of was made, and only the key has it. -/
theorem enter (h : c.IsTidy) (key : MatcherKey) : (c.enter key).1.IsTidy := by
  cases hlookup : c.index.lookup key with
  | some cell => rwa [enter_of_lookup hlookup]
  | none =>
    have hsize : (c.enter key).1.cells.size = c.cells.size + 1 := by
      simp [enter_of_lookup_none hlookup]
    have hcell : (c.enter key).2 = c.cells.size := by simp [enter_of_lookup_none hlookup]
    constructor
    · intro other cell hother
      rw [lookup_enter, hcell] at hother
      rw [hsize]
      split at hother
      · obtain rfl := Option.some.inj hother
        exact Nat.lt_succ_self _
      · exact Nat.lt_succ_of_lt (h.bound hother)
    · intro first second cell hfirst hsecond
      rw [lookup_enter, hcell] at hfirst hsecond
      split at hfirst <;> split at hsecond
      · next h₁ h₂ => rw [h₁, h₂]
      -- the new cell is beyond all that were in use
      · obtain rfl := Option.some.inj hfirst
        exact absurd (h.bound hsecond) (Nat.lt_irrefl _)
      · obtain rfl := Option.some.inj hsecond
        exact absurd (h.bound hfirst) (Nat.lt_irrefl _)
      · exact h.inj hfirst hsecond

theorem complete (h : c.IsTidy) (key : MatcherKey) (cell : Nat) (source : WordSource) :
    (c.complete key cell source).1.IsTidy := by
  constructor
  · intro other i hother
    rw [index_complete] at hother
    rw [size_complete]
    exact h.bound hother
  · intro first second i hfirst hsecond
    rw [index_complete] at hfirst hsecond
    exact h.inj hfirst hsecond

theorem invalidate (h : c.IsTidy) (source : String) : (c.invalidate source).IsTidy := by
  have hkeep : ∀ {key cell}, (c.invalidate source).index.lookup key = some cell →
      c.index.lookup key = some cell := by
    intro key cell hlookup
    rw [lookup_invalidate] at hlookup
    split at hlookup
    · contradiction
    · exact hlookup
  exact ⟨fun hlookup => h.bound (hkeep hlookup),
    fun hfirst hsecond => h.inj (hkeep hfirst) (hkeep hsecond)⟩

end IsTidy

/-! ### What a caller gets -/

/-- The cache is tidy, and what a cell holds is what a load would give now. -/
structure IsFaithful (c : MatcherCache) (source : WordSource) : Prop extends c.IsTidy where
  loaded : ∀ {key cell found}, c.index.lookup key = some cell → c.content cell = some found →
    ∃ words, source.load key.source = .ok words ∧ found.matcher = .ofWords words key.mode

namespace IsFaithful

theorem empty (source : WordSource) : IsFaithful empty source :=
  ⟨.empty, fun h => by simp [MatcherCache.empty] at h⟩

theorem enter (h : c.IsFaithful source) (key : MatcherKey) : (c.enter key).1.IsFaithful source := by
  refine ⟨h.toIsTidy.enter key, fun {other cell found} hlookup hcontent => ?_⟩
  rw [content_enter] at hcontent
  cases hold : c.index.lookup key with
  | some old =>
    rw [enter_of_lookup hold] at hlookup
    exact h.loaded hlookup hcontent
  | none =>
    rw [lookup_enter, enter_of_lookup_none hold] at hlookup
    split at hlookup
    · -- nothing can be in the cell that was made just now
      obtain rfl := Option.some.inj hlookup
      simp [content] at hcontent
    · exact h.loaded hlookup hcontent

theorem complete (h : c.IsFaithful source) (hcell : c.index.lookup key = some cell) :
    (c.complete key cell source).1.IsFaithful source := by
  refine ⟨h.toIsTidy.complete key cell source, fun {other i found} hlookup hcontent => ?_⟩
  rw [index_complete] at hlookup
  cases hempty : c.content cell with
  | some old =>
    rw [complete_of_content hempty] at hcontent
    exact h.loaded hlookup hcontent
  | none =>
    cases hload : source.load key.source with
    | error fault =>
      rw [complete_of_error hempty hload] at hcontent
      exact h.loaded hlookup hcontent
    | ok words =>
      rw [complete_of_ok hempty hload, content_setIfInBounds (h.bound hcell)] at hcontent
      split at hcontent
      · next hi =>
        obtain rfl := h.inj hlookup (hi ▸ hcell)
        obtain rfl := Option.some.inj hcontent
        exact ⟨words, hload, rfl⟩
      · exact h.loaded hlookup hcontent

theorem get (h : c.IsFaithful source) (key : MatcherKey) :
    (c.get key source).1.IsFaithful source := by
  rw [get_eq]
  exact (h.enter key).complete (by simp [lookup_enter])

end IsFaithful

/-- The words of which a caller that is alone gets the matcher: those the cell was filled with, or
else those of the source. -/
def Offers (c : MatcherCache) (key : MatcherKey) (source : WordSource) (words : List String) :
    Prop :=
  match (c.index.lookup key).bind c.content with
  | some found => found.matcher = .ofWords words key.mode
  | none => source.load key.source = .ok words

theorem IsFaithful.offers (h : c.IsFaithful source) (hload : source.load key.source = .ok words) :
    c.Offers key source words := by
  unfold Offers
  split
  · next found hfound =>
    obtain ⟨cell, hlookup, hcontent⟩ := Option.bind_eq_some_iff.1 hfound
    obtain ⟨others, hothers, hmatcher⟩ := h.loaded hlookup hcontent
    rw [hload] at hothers
    obtain rfl := Except.ok.inj hothers
    exact hmatcher
  · exact hload

theorem get_of_offers (h : c.Offers key source words) :
    ∃ found, (c.get key source).2 = .ok found ∧ found.matcher = .ofWords words key.mode := by
  have hcell : (c.index.lookup key).bind c.content =
      (c.enter key).1.content (c.enter key).2 := by
    cases hlookup : c.index.lookup key with
    | some cell => rw [enter_of_lookup hlookup, Option.bind_some]
    | none => simp [enter_of_lookup_none hlookup, content]
  rw [Offers, hcell] at h
  rw [get_eq]
  generalize (c.enter key).1 = c, (c.enter key).2 = cell at h ⊢
  cases hcontent : c.content cell with
  | some found =>
    rw [hcontent] at h
    exact ⟨found, by rw [complete_of_content hcontent], h⟩
  | none =>
    rw [hcontent] at h
    exact ⟨_, by rw [complete_of_ok hcontent h], rfl⟩

end ModerationGateway.Words.MatcherCache
