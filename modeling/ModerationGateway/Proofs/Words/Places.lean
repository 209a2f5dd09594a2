import ModerationGateway.Proofs.Words.Callers

/-!
# Who shares a cell

Two callers hold the same cell exactly if they asked for the same key and its source was not
dropped between the moments at which they came. Whether the next caller will join them shows in the
index.

* `Quiet`: a source is not dropped between two moments;
* `IsPlaced`: the tickets given out so far, and the index;
* `IsPlaced.call`, `IsPlaced.invalidate`, `IsPlaced.other`: the moves that touch them, and the rest.
-/

namespace ModerationGateway.Words.Sharing

/-- The source is not dropped between two moments. -/
def Quiet (moves : List Move) (source : String) (i j : Nat) : Prop :=
  ∀ t, i < t → t < j → moves[t]? ≠ some (.invalidate source)

variable {moves : List Move} {move : Move} {source : String} {i j : Nat} {c : MatcherCache}
  {tickets : List Ticket}

theorem quiet_self (moves : List Move) (source : String) (i : Nat) : Quiet moves source i i := by
  intro t hi hj
  omega

/-- A move that comes later is no matter. -/
theorem quiet_append_iff (hj : j ≤ moves.length) (move : Move) :
    Quiet (moves ++ [move]) source i j ↔ Quiet moves source i j := by
  have hsame : ∀ t, t < j → (moves ++ [move])[t]? = moves[t]? := fun t ht =>
    List.getElem?_append_left (Nat.lt_of_lt_of_le ht hj)
  constructor
  · intro h t hi ht
    rw [← hsame t ht]
    exact h t hi ht
  · intro h t hi ht
    rw [hsame t ht]
    exact h t hi ht

/-- What the newest move does. -/
theorem quiet_length_iff (hi : i < moves.length) :
    Quiet (moves ++ [move]) source i (moves ++ [move]).length ↔
      Quiet moves source i moves.length ∧ ∀ name, move = .invalidate name → source ≠ name := by
  rw [List.length_append, List.length_singleton]
  constructor
  · intro h
    refine ⟨?_, ?_⟩
    · rw [← quiet_append_iff (Nat.le_refl _) move]
      exact fun t hi ht => h t hi (Nat.lt_succ_of_lt ht)
    · rintro name rfl rfl
      exact h moves.length hi (Nat.lt_succ_self _) List.getElem?_concat_length
  · rintro ⟨h, hmove⟩ t hi ht
    rcases Nat.lt_or_eq_of_le (Nat.le_of_lt_succ ht) with ht | rfl
    · rw [List.getElem?_append_left ht]
      exact h t hi ht
    · rw [List.getElem?_concat_length]
      intro heq
      exact hmove source (Option.some.inj heq) rfl

/-- A move that drops nothing is no matter. -/
theorem quiet_length_iff_of_ne (hi : i < moves.length) (hmove : ∀ name, move ≠ .invalidate name) :
    Quiet (moves ++ [move]) source i (moves ++ [move]).length ↔
      Quiet moves source i moves.length := by
  rw [quiet_length_iff hi]
  exact ⟨And.left, fun hquiet => ⟨hquiet, fun name hname => absurd hname (hmove name)⟩⟩

/-- The tickets that were given out, the index, and the moves so far. -/
structure IsPlaced (moves : List Move) (c : MatcherCache) (tickets : List Ticket) : Prop where
  tidy : c.IsTidy
  bound : ∀ a ∈ tickets, a.cell < c.cells.size ∧ a.start < moves.length
  /-- The next caller for the key of a ticket gets its cell, unless the source was dropped. -/
  current : ∀ a ∈ tickets,
    (c.index.lookup a.key = some a.cell ↔ Quiet moves a.key.source a.start moves.length)
  /-- Whoever holds a cell in use holds it for its key. -/
  owned : ∀ key cell, c.index.lookup key = some cell → ∀ a ∈ tickets, a.cell = cell → a.key = key
  shared : ∀ a ∈ tickets, ∀ b ∈ tickets, a.start ≤ b.start →
    (a.cell = b.cell ↔ a.key = b.key ∧ Quiet moves a.key.source a.start b.start)

namespace IsPlaced

theorem nil : IsPlaced [] .empty [] where
  tidy := .empty
  bound := fun _ h => absurd h List.not_mem_nil
  current := fun _ h => absurd h List.not_mem_nil
  owned := fun _ _ _ _ h => absurd h List.not_mem_nil
  shared := fun _ h => absurd h List.not_mem_nil

/-- What was quiet between two tickets stays so. -/
theorem shared_append (h : IsPlaced moves c tickets) (move : Move) {a b : Ticket}
    (ha : a ∈ tickets) (hb : b ∈ tickets) (hle : a.start ≤ b.start) :
    a.cell = b.cell ↔ a.key = b.key ∧ Quiet (moves ++ [move]) a.key.source a.start b.start := by
  rw [quiet_append_iff (Nat.le_of_lt (h.bound b hb).2) _]
  exact h.shared a ha b hb hle

theorem bound_append (h : IsPlaced moves c tickets) (move : Move) {a : Ticket} (ha : a ∈ tickets) :
    a.start < (moves ++ [move]).length := by
  rw [List.length_append, List.length_singleton]
  exact Nat.lt_succ_of_lt (h.bound a ha).2

/-- A move that drops nothing and leaves the index as it is. -/
theorem other (h : IsPlaced moves c tickets) {c' : MatcherCache} (htidy : c'.IsTidy)
    (hindex : c'.index = c.index) (hsize : c'.cells.size = c.cells.size)
    (hmove : ∀ name, move ≠ .invalidate name) : IsPlaced (moves ++ [move]) c' tickets where
  tidy := htidy
  bound := fun a ha => ⟨hsize ▸ (h.bound a ha).1, h.bound_append move ha⟩
  current := fun a ha => by
    rw [hindex, h.current a ha, quiet_length_iff_of_ne (h.bound a ha).2 hmove]
  owned := fun key cell hlookup => h.owned key cell (hindex ▸ hlookup)
  shared := fun a ha b hb hle => h.shared_append move ha hb hle

/-- A source is dropped: the next callers for its keys get cells of their own. -/
theorem invalidate (h : IsPlaced moves c tickets) (name : String) :
    IsPlaced (moves ++ [.invalidate name]) (c.invalidate name) tickets where
  tidy := h.tidy.invalidate name
  bound := fun a ha => ⟨(h.bound a ha).1, h.bound_append _ ha⟩
  current := fun a ha => by
    rw [MatcherCache.lookup_invalidate, quiet_length_iff (h.bound a ha).2, ← h.current a ha]
    by_cases hsource : a.key.source = name
    · rw [if_pos hsource]
      exact ⟨fun hnone => by contradiction, fun hquiet => absurd hsource (hquiet.2 name rfl)⟩
    · rw [if_neg hsource]
      refine ⟨fun hlookup => ⟨hlookup, fun other hother => ?_⟩, And.left⟩
      obtain rfl := Move.invalidate.inj hother
      exact hsource
  owned := fun key cell hlookup => by
    rw [MatcherCache.lookup_invalidate] at hlookup
    split at hlookup
    · contradiction
    · exact h.owned key cell hlookup
  shared := fun a ha b hb hle => h.shared_append _ ha hb hle

/-- The ticket of a caller that comes. -/
theorem cell_eq_iff (h : IsPlaced moves c tickets) (key : MatcherKey) {a : Ticket}
    (ha : a ∈ tickets) : a.cell = (c.enter key).2 ↔
      a.key = key ∧ Quiet moves a.key.source a.start moves.length := by
  cases hlookup : c.index.lookup key with
  | some cell =>
    rw [MatcherCache.enter_of_lookup hlookup]
    constructor
    · intro hcell
      have hkey := h.owned key cell hlookup a ha hcell
      refine ⟨hkey, (h.current a ha).1 ?_⟩
      rw [hkey, hlookup, hcell]
    · rintro ⟨rfl, hquiet⟩
      have hcurrent := (h.current a ha).2 hquiet
      rw [hlookup] at hcurrent
      exact (Option.some.inj hcurrent).symm
  | none =>
    rw [MatcherCache.enter_of_lookup_none hlookup]
    constructor
    · intro hcell
      exact absurd hcell (Nat.ne_of_lt (h.bound a ha).1)
    · rintro ⟨rfl, hquiet⟩
      have hcurrent := (h.current a ha).2 hquiet
      rw [hlookup] at hcurrent
      contradiction

/-- Somebody comes, and joins those who hold the cell of its key. -/
theorem call (h : IsPlaced moves c tickets) (key : MatcherKey) :
    IsPlaced (moves ++ [.call key]) (c.enter key).1
      (tickets ++ [⟨key, (c.enter key).2, moves.length⟩]) := by
  have htidy := h.tidy.enter key
  have hlookup : (c.enter key).1.index.lookup key = some (c.enter key).2 := by
    rw [MatcherCache.lookup_enter, if_pos rfl]
  have hsize := MatcherCache.size_le_size_enter c key
  have hcall : ∀ name, Move.call key ≠ .invalidate name := fun name hname => by contradiction
  constructor
  case tidy => exact htidy
  case bound =>
    intro a ha
    rcases List.mem_append.1 ha with ha | ha
    · exact ⟨Nat.lt_of_lt_of_le (h.bound a ha).1 hsize, h.bound_append _ ha⟩
    · obtain rfl := List.mem_singleton.1 ha
      exact ⟨htidy.bound hlookup, by simp⟩
  case current =>
    intro a ha
    rcases List.mem_append.1 ha with ha | ha
    · rw [MatcherCache.lookup_enter, quiet_length_iff_of_ne (h.bound a ha).2 hcall]
      by_cases hkey : a.key = key
      · rw [if_pos hkey, Option.some_inj, eq_comm, h.cell_eq_iff key ha]
        exact ⟨And.right, fun hquiet => ⟨hkey, hquiet⟩⟩
      · rw [if_neg hkey]
        exact h.current a ha
    · obtain rfl := List.mem_singleton.1 ha
      rw [List.length_append, List.length_singleton]
      exact ⟨fun _ t hi ht => by dsimp only at hi; omega, fun _ => hlookup⟩
  case owned =>
    intro other cell hother a ha hcell
    rcases List.mem_append.1 ha with ha | ha
    · rw [MatcherCache.lookup_enter] at hother
      split at hother
      · next heq =>
        obtain rfl := Option.some.inj hother
        exact ((h.cell_eq_iff key ha).1 hcell).1.trans heq.symm
      · exact h.owned other cell hother a ha hcell
    · obtain rfl := List.mem_singleton.1 ha
      rw [← hcell] at hother
      exact htidy.inj hlookup hother
  case shared =>
    intro a ha b hb hle
    rcases List.mem_append.1 ha with ha | ha <;> rcases List.mem_append.1 hb with hb | hb
    · exact h.shared_append _ ha hb hle
    · obtain rfl := List.mem_singleton.1 hb
      rw [quiet_append_iff (Nat.le_refl _) _]
      exact h.cell_eq_iff key ha
    · -- nobody came later than the one who comes now
      obtain rfl := List.mem_singleton.1 ha
      exact absurd (h.bound b hb).2 (Nat.not_lt_of_le hle)
    · obtain rfl := List.mem_singleton.1 ha
      obtain rfl := List.mem_singleton.1 hb
      exact ⟨fun _ => ⟨rfl, quiet_self _ _ _⟩, fun _ => rfl⟩

end IsPlaced

end ModerationGateway.Words.Sharing
