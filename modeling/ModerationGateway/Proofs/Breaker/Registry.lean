import ModerationGateway.Breaker.Registry

/-!
# Whose breaker is whose

A breaker belongs to the key that it was made for, whether it is in use or was replaced and is only
held by those who were given it. What is done for one key leaves the breakers of all others alone.

* `lookup_place`, `getOrCreate_cases`: what a request for a breaker does to the registry;
* `given_eq_iff`: when two requests for a key give the same breaker;
* `Has`, `IsSeparate`: which breakers belong to a key, and that none belongs to two;
* `IsSeparate.getOrCreate`, `IsSeparate.update`: both moves keep it;
* `find?_getOrCreate_of_ne`, `IsSeparate.find?_update_of_ne`: what they leave alone.
-/

namespace ModerationGateway.Breaker.Registry

variable {r : Registry} {held : List (String × BreakerId)} {key other : String} {id : BreakerId}
  {settings : BreakerSettings} {now : Nat}

/-! ### Finding breakers -/

theorem lookup_place (key : String) (id : BreakerId) (index : List (String × BreakerId))
    (other : String) :
    (place key id index).lookup other = if other = key then some id else index.lookup other := by
  have hskip : other ≠ key → (other == key) = false := fun hne => beq_eq_false_iff_ne.2 hne
  induction index with
  | nil =>
    by_cases h : other = key
    · simp [place, h]
    · simp [place, List.lookup_cons, h, hskip h]
  | cons entry rest ih =>
    obtain ⟨first, old⟩ := entry
    rw [place]
    by_cases hfirst : key = first
    · subst hfirst
      by_cases h : other = key
      · simp [h]
      · simp [List.lookup_cons, h, hskip h]
    · rw [if_neg hfirst]
      by_cases hlt : key < first
      · rw [if_pos hlt, List.lookup_cons]
        by_cases h : other = key
        · simp [h]
        · simp [h, hskip h]
      · rw [if_neg hlt, List.lookup_cons, List.lookup_cons, ih]
        by_cases h : other = key
        · subst h
          simp [beq_eq_false_iff_ne.2 hfirst]
        · simp [h]

/-- A request for a breaker gives the one in use, if it has the settings, or makes another. -/
theorem getOrCreate_cases (r : Registry) (key : String) (settings : BreakerSettings) (now : Nat) :
    (∃ id b, r.find? key = some (id, b) ∧ b.settings = settings ∧
        r.getOrCreate key settings now = (r, id)) ∨
      r.getOrCreate key settings now = r.create key settings now := by
  cases hfind : r.find? key with
  | none =>
    right
    simp only [getOrCreate, hfind]
  | some found =>
    obtain ⟨id, b⟩ := found
    by_cases hsettings : b.settings = settings
    · exact .inl ⟨id, b, rfl, hsettings, getOrCreate_of_settings_eq hfind hsettings now⟩
    · right
      simp only [getOrCreate, hfind, if_neg hsettings]

theorem find?_eq_some {b : CircuitBreaker} :
    r.find? key = some (id, b) ↔ r.index.lookup key = some id ∧ r.breaker? id = some b := by
  simp only [find?, Option.bind_eq_bind, Option.bind_eq_some_iff, Option.some.injEq,
    Prod.mk.injEq]
  constructor
  · rintro ⟨i, hi, b', hb, rfl, rfl⟩
    exact ⟨hi, hb⟩
  · rintro ⟨hi, hb⟩
    exact ⟨id, hi, b, hb, rfl, rfl⟩

/-- The key then has the breaker that was given, and every other key the one that it had. -/
theorem lookup_getOrCreate (r : Registry) (key : String) (settings : BreakerSettings) (now : Nat)
    (other : String) :
    (r.getOrCreate key settings now).1.index.lookup other =
      if other = key then some (r.getOrCreate key settings now).2 else r.index.lookup other := by
  rcases getOrCreate_cases r key settings now with ⟨id, b, hfind, -, hget⟩ | hget
  · rw [hget]
    by_cases h : other = key
    · rw [if_pos h, h]
      exact (find?_eq_some.1 hfind).1
    · rw [if_neg h]
  · rw [hget]
    exact lookup_place key r.made.length r.index other

/-- The breaker that was given is in use for the key and has the settings. -/
theorem exists_find?_getOrCreate (r : Registry) (key : String) (settings : BreakerSettings)
    (now : Nat) : ∃ b, b.settings = settings ∧ (r.getOrCreate key settings now).1.find? key =
      some ((r.getOrCreate key settings now).2, b) := by
  have hlookup := lookup_getOrCreate r key settings now key
  rw [if_pos rfl] at hlookup
  rcases getOrCreate_cases r key settings now with ⟨id, b, hfind, hsettings, hget⟩ | hget
  · exact ⟨b, hsettings, by rw [hget, hfind]⟩
  · refine ⟨.fresh key settings now, rfl, find?_eq_some.2 ⟨hlookup, ?_⟩⟩
    rw [hget]
    exact List.getElem?_concat_length

theorem length_of_find? {b : CircuitBreaker} (h : r.find? key = some (id, b)) :
    id < r.made.length :=
  (List.getElem?_eq_some_iff.1 (find?_eq_some.1 h).2).1

/-- Of two requests for a key, the second gives the breaker of the first if the settings are the
same, and only then. -/
theorem given_eq_iff (r : Registry) (key : String) (settings settings' : BreakerSettings)
    (now now' : Nat) :
    ((r.getOrCreate key settings now).1.getOrCreate key settings' now').2 =
      (r.getOrCreate key settings now).2 ↔ settings' = settings := by
  obtain ⟨b, hb, hfind⟩ := exists_find?_getOrCreate r key settings now
  constructor
  · intro hsame
    rcases getOrCreate_cases (r.getOrCreate key settings now).1 key settings' now' with
      ⟨id, b', hfind', hb', -⟩ | hnew
    · obtain ⟨-, rfl⟩ := Prod.mk.inj (Option.some.inj (hfind'.symm.trans hfind))
      exact hb'.symm.trans hb
    · rw [hnew] at hsame
      have hlt := length_of_find? hfind
      rw [← hsame] at hlt
      exact absurd hlt (Nat.lt_irrefl _)
  · rintro rfl
    rw [getOrCreate_of_settings_eq hfind hb now']

/-- No breaker that was made changes. -/
theorem prefix_made_getOrCreate (r : Registry) (key : String) (settings : BreakerSettings)
    (now : Nat) : r.made <+: (r.getOrCreate key settings now).1.made := by
  rcases getOrCreate_cases r key settings now with ⟨id, b, -, -, hget⟩ | hget
  · exact hget ▸ List.prefix_rfl
  · rw [hget]
    exact List.prefix_append _ _

theorem breaker?_getOrCreate (hid : id < r.made.length) (key : String)
    (settings : BreakerSettings) (now : Nat) :
    (r.getOrCreate key settings now).1.breaker? id = r.breaker? id := by
  obtain ⟨more, hmore⟩ := prefix_made_getOrCreate r key settings now
  rw [breaker?, ← hmore, List.getElem?_append_left hid, breaker?]

theorem breaker?_update_of_ne {other : BreakerId} (hne : id ≠ other) (b : CircuitBreaker) :
    (r.update id b).breaker? other = r.breaker? other :=
  List.getElem?_set_ne hne

/-! ### Belonging -/

/-- A breaker belongs to a key: it is in use for it, or held by somebody who was given it. -/
def Has (r : Registry) (held : List (String × BreakerId)) (key : String) (id : BreakerId) : Prop :=
  r.index.lookup key = some id ∨ (key, id) ∈ held

/-- All breakers that belong to keys were made, and none belongs to two. -/
structure IsSeparate (r : Registry) (held : List (String × BreakerId)) : Prop where
  bound : ∀ key id, r.Has held key id → id < r.made.length
  inj : ∀ key other id, r.Has held key id → r.Has held other id → key = other

namespace IsSeparate

theorem empty : IsSeparate .empty [] := by
  have hnone : ∀ key id, ¬Has .empty [] key id := by
    intro key id h
    simp [Has, Registry.empty] at h
  exact ⟨fun key id h => absurd h (hnone key id), fun key other id h => absurd h (hnone key id)⟩

/-- What belongs to a key after a request: what did before, and what was given. -/
theorem has_getOrCreate {other : String} {i : BreakerId}
    (h : (r.getOrCreate key settings now).1.Has
      (held ++ [(key, (r.getOrCreate key settings now).2)]) other i) :
    r.Has held other i ∨ other = key ∧ i = (r.getOrCreate key settings now).2 := by
  rcases h with hlookup | hmem
  · rw [lookup_getOrCreate] at hlookup
    by_cases hother : other = key
    · rw [if_pos hother] at hlookup
      exact .inr ⟨hother, (Option.some.inj hlookup).symm⟩
    · rw [if_neg hother] at hlookup
      exact .inl (.inl hlookup)
  · rcases List.mem_append.1 hmem with hmem | hmem
    · exact .inl (.inr hmem)
    · obtain ⟨rfl, rfl⟩ := Prod.mk.inj (List.mem_singleton.1 hmem)
      exact .inr ⟨rfl, rfl⟩

/-- The breaker that is given belongs to the key already, or it is new. -/
theorem given (r : Registry) (held : List (String × BreakerId)) (key : String)
    (settings : BreakerSettings) (now : Nat) :
    r.Has held key (r.getOrCreate key settings now).2 ∨
      (r.getOrCreate key settings now).2 = r.made.length := by
  rcases getOrCreate_cases r key settings now with ⟨id, b, hfind, -, hget⟩ | hget
  · rw [hget]
    exact .inl (.inl (find?_eq_some.1 hfind).1)
  · rw [hget]
    exact .inr rfl

/-- Whoever asks for a breaker of its own key gets none of another's. -/
theorem getOrCreate (h : r.IsSeparate held) (key : String) (settings : BreakerSettings)
    (now : Nat) :
    (r.getOrCreate key settings now).1.IsSeparate
      (held ++ [(key, (r.getOrCreate key settings now).2)]) := by
  have hlength := (prefix_made_getOrCreate r key settings now).length_le
  have hgiven : (r.getOrCreate key settings now).2 <
      (r.getOrCreate key settings now).1.made.length := by
    obtain ⟨b, -, hfind⟩ := exists_find?_getOrCreate r key settings now
    exact length_of_find? hfind
  have hnobody : ∀ other, r.Has held other (r.getOrCreate key settings now).2 → other = key := by
    intro other hother
    rcases given r held key settings now with hhas | hnew
    · exact h.inj other key _ hother hhas
    · rw [hnew] at hother
      exact absurd (h.bound other _ hother) (Nat.lt_irrefl _)
  constructor
  · intro other i hother
    rcases has_getOrCreate hother with hold | ⟨-, rfl⟩
    · exact Nat.lt_of_lt_of_le (h.bound other i hold) hlength
    · exact hgiven
  · intro first second i hfirst hsecond
    rcases has_getOrCreate hfirst with hold | ⟨hkey, hi⟩
    · rcases has_getOrCreate hsecond with hold' | ⟨hkey, hi⟩
      · exact h.inj first second i hold hold'
      · rw [hi] at hold
        exact (hnobody first hold).trans hkey.symm
    · rcases has_getOrCreate hsecond with hold' | ⟨hkey', -⟩
      · rw [hi] at hold'
        exact hkey.trans (hnobody second hold').symm
      · exact hkey.trans hkey'.symm

theorem update (h : r.IsSeparate held) (id : BreakerId) (b : CircuitBreaker) :
    (r.update id b).IsSeparate held := by
  refine ⟨fun key i hhas => ?_, h.inj⟩
  rw [Registry.update, List.length_set]
  exact h.bound key i hhas

/-- Without those who hold breakers, the breakers in use belong to their keys. -/
theorem of_held (h : r.IsSeparate held) : r.IsSeparate [] := by
  have hhas : ∀ key id, r.Has [] key id → r.Has held key id :=
    fun key id hin => hin.imp_right fun hmem => absurd hmem List.not_mem_nil
  exact ⟨fun key id hin => h.bound key id (hhas key id hin),
    fun key other id hin hin' => h.inj key other id (hhas key id hin) (hhas other id hin')⟩

end IsSeparate

/-! ### What is left alone -/

/-- A request for one key leaves the breakers of the others in use as they are. -/
theorem IsSeparate.find?_getOrCreate_of_ne (h : r.IsSeparate held) (hne : other ≠ key)
    (settings : BreakerSettings) (now : Nat) :
    (r.getOrCreate key settings now).1.find? other = r.find? other := by
  simp only [find?, lookup_getOrCreate, if_neg hne]
  cases hlookup : r.index.lookup other with
  | none => rfl
  | some id =>
    have hid := h.bound other id (.inl hlookup)
    simp only [Option.bind_eq_bind, Option.bind_some, breaker?_getOrCreate hid]

/-- A change of a breaker of one key leaves those of the others in use as they are. -/
theorem IsSeparate.find?_update_of_ne (h : r.IsSeparate held) (hid : r.Has held key id)
    (hne : other ≠ key) (b : CircuitBreaker) : (r.update id b).find? other = r.find? other := by
  have hindex : (r.update id b).index = r.index := rfl
  simp only [find?, hindex]
  cases hlookup : r.index.lookup other with
  | none => rfl
  | some i =>
    have hi : id ≠ i := by
      rintro rfl
      exact hne (h.inj other key _ (.inl hlookup) hid)
    simp only [Option.bind_eq_bind, Option.bind_some, breaker?_update_of_ne hi]

end ModerationGateway.Breaker.Registry
