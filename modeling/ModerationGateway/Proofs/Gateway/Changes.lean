import Mathlib.Data.Finset.Card
import ModerationGateway.Gateway.Rules

/-!
# Rules after any changes

Rules are put in and taken away, and paths are bound to their names, in any order and any number of
times. A path may be bound before there is a rule of that name, and stays bound when the rule goes.
What a path resolves to is told by two changes: the latest binding of the path, and the latest
change of the name that it binds to.

* `Change`, `change`, `after`: what can be done to the rules in force, and the rules after it;
* `setUp`, `foldl_change_ofConfig`: the changes that a configuration stands for;
* `IsLatest`, `isLatest_append_singleton`: the latest change that is about something;
* `Stands`, `Binds`: a rule that was put in and is still there, and a path and its name;
* `Recalls`, `Recalls.change`, `recalls_after`: the tables agree with what was done;
* `changes_tell`: paths, names, what is taken away and the number of rules.
-/

namespace ModerationGateway.Gateway.RuleCache

/-- What can be done to the rules in force. -/
inductive Change where
  | upsert (rule : Rule)
  | remove (id : String)
  | bind (path id : String)
  deriving DecidableEq, Repr

namespace Change

/-- The name whose rule is set or taken away. -/
def name? : Change → Option String
  | upsert rule => some rule.id
  | remove id => some id
  | bind _ _ => none

/-- The path that is bound. -/
def path? : Change → Option String
  | upsert _ => none
  | remove _ => none
  | bind path _ => some path

end Change

/-- Make a change. -/
def change (c : RuleCache) : Change → RuleCache
  | .upsert rule => c.upsert rule
  | .remove id => (c.remove id).1
  | .bind path id => c.bind path id

/-- The rules in force after some changes, from none. -/
def after (changes : List Change) : RuleCache := changes.foldl change empty

@[simp] theorem after_append_singleton (changes : List Change) (d : Change) :
    after (changes ++ [d]) = (after changes).change d := by
  simp [after]

/-- The rules and the routes of a configuration, put in one after the other. -/
def setUp (config : Config) : List Change :=
  config.rules.map .upsert ++ config.routes.map fun r => .bind r.path r.rule

theorem ofConfig_eq_after (config : Config) : ofConfig config = after (setUp config) := by
  rw [after, setUp, List.foldl_append, List.foldl_map, List.foldl_map]
  rfl

/-- The tables of a configuration that are changed further. -/
theorem foldl_change_ofConfig (config : Config) (changes : List Change) :
    changes.foldl change (ofConfig config) = after (setUp config ++ changes) := by
  rw [ofConfig_eq_after, after, after, List.foldl_append]

/-! ### What the changes tell -/

/-- Of the changes about something, this one is the latest. -/
def IsLatest (about : Change → Prop) (d : Change) (changes : List Change) : Prop :=
  about d ∧ ∃ before later, changes = before ++ d :: later ∧ ∀ e ∈ later, ¬ about e

/-- The rule was the latest to be put in under its name, and was not taken away. -/
def Stands (changes : List Change) (rule : Rule) : Prop :=
  IsLatest (·.name? = some rule.id) (.upsert rule) changes

/-- The path was bound to the name, and to no other afterwards. -/
def Binds (changes : List Change) (path id : String) : Prop :=
  IsLatest (·.path? = some path) (.bind path id) changes

variable {about : Change → Prop} {changes : List Change} {c : RuleCache} {d e : Change}
  {rule other : Rule} {path id : String}

theorem not_isLatest_nil (about : Change → Prop) (d : Change) : ¬ IsLatest about d [] := by
  rintro ⟨-, before, later, hnil, -⟩
  simp at hnil

/-- One more change is the latest if it is about the same, and otherwise changes nothing. -/
theorem isLatest_append_singleton (about : Change → Prop) (d e : Change) (changes : List Change) :
    IsLatest about d (changes ++ [e]) ↔
      about e ∧ d = e ∨ ¬ about e ∧ IsLatest about d changes := by
  constructor
  · rintro ⟨hd, before, later, hsplit, hlater⟩
    rcases List.eq_nil_or_concat later with rfl | ⟨later, last, rfl⟩
    · obtain ⟨-, rfl⟩ := List.append_singleton_inj.1 hsplit
      exact .inl ⟨hd, rfl⟩
    · rw [List.concat_eq_append, ← List.cons_append, ← List.append_assoc,
        List.append_singleton_inj] at hsplit
      obtain ⟨hchanges, rfl⟩ := hsplit
      rw [List.concat_eq_append, List.forall_mem_append, List.forall_mem_singleton] at hlater
      exact .inr ⟨hlater.2, hd, before, later, hchanges, hlater.1⟩
  · rintro (⟨he, rfl⟩ | ⟨he, hd, before, later, rfl, hlater⟩)
    · exact ⟨he, changes, [], rfl, List.forall_mem_nil _⟩
    · refine ⟨hd, before, later ++ [e], by simp, ?_⟩
      rw [List.forall_mem_append, List.forall_mem_singleton]
      exact ⟨hlater, he⟩

/-- There is one latest change at most. -/
theorem IsLatest.unique (h : IsLatest about d changes) (h' : IsLatest about e changes) : d = e := by
  induction changes using List.reverseRecOn with
  | nil => exact absurd h (not_isLatest_nil about d)
  | append_singleton changes last ih =>
    rw [isLatest_append_singleton] at h h'
    rcases h with ⟨hlast, rfl⟩ | ⟨hlast, h⟩ <;> rcases h' with ⟨hlast', rfl⟩ | ⟨hlast', h'⟩
    · rfl
    · exact absurd hlast hlast'
    · exact absurd hlast' hlast
    · exact ih h h'

theorem Binds.unique {id' : String} (h : Binds changes path id) (h' : Binds changes path id') :
    id = id' := by
  cases IsLatest.unique h h'
  rfl

/-- Where there is any change about something there is a latest one. -/
theorem exists_isLatest (h : ∃ e ∈ changes, about e) : ∃ d, IsLatest about d changes := by
  induction changes using List.reverseRecOn with
  | nil =>
    obtain ⟨e, he, -⟩ := h
    cases he
  | append_singleton changes last ih =>
    by_cases hlast : about last
    · exact ⟨last, (isLatest_append_singleton about last last changes).2 (.inl ⟨hlast, rfl⟩)⟩
    · obtain ⟨e, he, habout⟩ := h
      have hold : e ∈ changes := by
        rcases List.mem_append.1 he with he | he
        · exact he
        · exact absurd (List.mem_singleton.1 he ▸ habout) hlast
      obtain ⟨d, hd⟩ := ih ⟨e, hold, habout⟩
      exact ⟨d, (isLatest_append_singleton about d last changes).2 (.inr ⟨hlast, hd⟩)⟩

/-- A path that was ever bound has a latest binding. -/
theorem exists_binds_iff : (∃ id, Binds changes path id) ↔ ∃ id, .bind path id ∈ changes := by
  constructor
  · rintro ⟨id, -, before, later, rfl, -⟩
    exact ⟨id, by simp⟩
  · rintro ⟨id, hid⟩
    have hany : ∃ e ∈ changes, e.path? = some path := ⟨_, hid, rfl⟩
    obtain ⟨d, hd⟩ := exists_isLatest hany
    cases d with
    | bind other target =>
      obtain rfl : other = path := Option.some.inj hd.1
      exact ⟨target, hd⟩
    | upsert rule => cases hd.1
    | remove name => cases hd.1

/-! ### Changes, one at a time -/

/-- The tables agree with the changes that led to them. -/
structure Recalls (c : RuleCache) (changes : List Change) : Prop where
  get : ∀ id rule, c.get id = some rule ↔ rule.id = id ∧ Stands changes rule
  route : ∀ path id, c.routes.lookup path = some id ↔ Binds changes path id
  /-- No name has two rules. -/
  names : (c.rules.map Prod.fst).Nodup

theorem recalls_empty : Recalls empty [] := by
  refine ⟨fun id rule => ?_, fun path id => ?_, List.nodup_nil⟩
  · exact iff_of_false nofun fun h => not_isLatest_nil _ _ h.2
  · exact iff_of_false nofun (not_isLatest_nil _ _)

/-- What is done under a name does not touch the rules of others. -/
theorem get_change_of_ne (h : d.name? ≠ some id) (c : RuleCache) :
    (c.change d).get id = c.get id := by
  cases d with
  | upsert rule => exact get_upsert_of_ne (fun heq => h (by rw [Change.name?, heq])) c
  | remove other => exact lookup_take_of_ne (fun heq => h (by rw [Change.name?, heq])) c.rules
  | bind path other => rfl

/-- What is done to a path does not touch the bindings of others. -/
theorem lookup_routes_change_of_ne (h : d.path? ≠ some path) (c : RuleCache) :
    (c.change d).routes.lookup path = c.routes.lookup path := by
  cases d with
  | bind other id => exact lookup_put_of_ne (fun heq => h (by rw [Change.path?, heq])) id c.routes
  | _ => rfl

theorem Recalls.get_change (h : c.Recalls changes) (d : Change) (id : String) (rule : Rule) :
    (c.change d).get id = some rule ↔ rule.id = id ∧ Stands (changes ++ [d]) rule := by
  rw [Stands, isLatest_append_singleton]
  by_cases hd : d.name? = some id
  · have hnow : rule.id = id ∧ (d.name? = some rule.id ∧ .upsert rule = d ∨
        ¬ d.name? = some rule.id ∧ Stands changes rule) ↔ rule.id = id ∧ .upsert rule = d := by
      refine and_congr_right ?_
      rintro rfl
      simp [hd]
    refine Iff.trans ?_ hnow.symm
    cases d with
    | upsert new =>
      obtain rfl : new.id = id := Option.some.inj hd
      rw [change, get_upsert, Option.some_inj]
      constructor
      · rintro rfl
        exact ⟨rfl, rfl⟩
      · rintro ⟨-, hnew⟩
        cases hnew
        rfl
    | remove name =>
      obtain rfl : name = id := Option.some.inj hd
      have hnone : (c.change (.remove name)).get name = none := lookup_take name c.rules
      simp [hnone]
    | bind path name => cases hd
  · rw [get_change_of_ne hd, h.get]
    refine and_congr_right ?_
    rintro rfl
    simp only [hd, false_and, not_false_eq_true, true_and, false_or]
    rfl

theorem Recalls.route_change (h : c.Recalls changes) (d : Change) (path id : String) :
    (c.change d).routes.lookup path = some id ↔ Binds (changes ++ [d]) path id := by
  rw [Binds, isLatest_append_singleton]
  by_cases hd : d.path? = some path
  · cases d with
    | bind other target =>
      obtain rfl : other = path := Option.some.inj hd
      simp only [change, RuleCache.bind, lookup_put, Option.some_inj, hd, true_and, not_true,
        false_and, or_false, Change.bind.injEq, eq_comm]
    | upsert rule => cases hd
    | remove name => cases hd
  · rw [lookup_routes_change_of_ne hd, h.route]
    simp only [hd, false_and, not_false_eq_true, true_and, false_or]
    rfl

theorem nodup_change (h : (c.rules.map Prod.fst).Nodup) (d : Change) :
    ((c.change d).rules.map Prod.fst).Nodup := by
  cases d with
  | upsert rule => exact nodup_put h rule.id rule
  | remove id => exact nodup_take h id
  | bind path id => exact h

theorem Recalls.change (h : c.Recalls changes) (d : Change) :
    (c.change d).Recalls (changes ++ [d]) :=
  ⟨h.get_change d, h.route_change d, nodup_change h.names d⟩

theorem recalls_after (changes : List Change) : (after changes).Recalls changes := by
  induction changes using List.reverseRecOn with
  | nil => exact recalls_empty
  | append_singleton changes d ih =>
    rw [after_append_singleton]
    exact ih.change d

/-! ### After any changes -/

theorem Recalls.resolve (h : c.Recalls changes) (path : String) (rule : Rule) :
    c.resolve path = some rule ↔ Binds changes path rule.id ∧ Stands changes rule := by
  rw [RuleCache.resolve, Option.bind_eq_some_iff]
  constructor
  · rintro ⟨id, hid, hrule⟩
    obtain ⟨rfl, hstands⟩ := (h.get id rule).1 hrule
    exact ⟨(h.route path _).1 hid, hstands⟩
  · rintro ⟨hbinds, hstands⟩
    exact ⟨rule.id, (h.route path _).2 hbinds, (h.get _ rule).2 ⟨rfl, hstands⟩⟩

/-- The names of the rules that stand, each once. -/
theorem Recalls.size (h : c.Recalls changes) :
    ∃ names : Finset String, (∀ id, id ∈ names ↔ ∃ rule, rule.id = id ∧ Stands changes rule) ∧
      c.size = names.card := by
  refine ⟨(c.rules.map Prod.fst).toFinset, fun id => ?_, ?_⟩
  · rw [List.mem_toFinset]
    simp only [← h.get]
    constructor
    · intro hid
      obtain ⟨entry, hentry, rfl⟩ := List.mem_map.1 hid
      exact ⟨entry.2, lookup_of_mem h.names hentry⟩
    · rintro ⟨rule, hrule⟩
      by_contra hid
      rw [RuleCache.get, lookup_eq_none_of_not_mem hid] at hrule
      cases hrule
  · rw [List.toFinset_card_of_nodup h.names, List.length_map, RuleCache.size]

/-- What the rules in force are after some changes. -/
structure Tells (changes : List Change) : Prop where
  /-- A path has the rule that stands under the name of its latest binding. -/
  resolve : ∀ path rule, (after changes).resolve path = some rule ↔
    ∃ id, Binds changes path id ∧ rule.id = id ∧ Stands changes rule
  /-- Only a path that was ever bound has a latest binding, and only one. -/
  bound : ∀ path, (∃! id, Binds changes path id) ↔ ∃ id, .bind path id ∈ changes
  get : ∀ id rule, (after changes).get id = some rule ↔ rule.id = id ∧ Stands changes rule
  /-- What is done under other names and to other paths makes no difference. -/
  frame : ∀ d path, d.path? ≠ some path → (∀ id, Binds changes path id → d.name? ≠ some id) →
    ((after changes).change d).resolve path = (after changes).resolve path
  frame_get : ∀ d id, d.name? ≠ some id → ((after changes).change d).get id = (after changes).get id
  /-- The rule that is taken away is the one that stood, and then none stands. -/
  remove : ∀ id, (∀ rule, ((after changes).remove id).2 = some rule ↔
    rule.id = id ∧ Stands changes rule) ∧ ((after changes).remove id).1.get id = none
  size : ∃ names : Finset String, (∀ id, id ∈ names ↔ ∃ rule, rule.id = id ∧ Stands changes rule) ∧
    (after changes).size = names.card
  /-- Without its rule a path has none, and it has one again when a rule of that name comes. -/
  revived : ∀ path rule, Binds changes path rule.id →
    (after (changes ++ [.remove rule.id])).resolve path = none ∧
      (after (changes ++ [.upsert rule])).resolve path = some rule ∧
      (after (changes ++ [.remove rule.id, .upsert rule])).resolve path = some rule
  /-- All this goes for the tables of a configuration: its rules and routes are changes, too. -/
  configured : ∀ config, changes.foldl change (ofConfig config) = after (setUp config ++ changes)

theorem Recalls.resolve_change_of_ne (h : c.Recalls changes) (hpath : d.path? ≠ some path)
    (hname : ∀ id, Binds changes path id → d.name? ≠ some id) :
    (c.change d).resolve path = c.resolve path := by
  rw [RuleCache.resolve, RuleCache.resolve, lookup_routes_change_of_ne hpath]
  cases hid : c.routes.lookup path with
  | none => rfl
  | some id =>
    rw [Option.bind_some, Option.bind_some,
      get_change_of_ne (hname id ((h.route path id).1 hid)) c]

/-- A bound path has the rule that comes under its name. -/
theorem Recalls.resolve_upsert (h : c.Recalls changes) (hpath : Binds changes path rule.id) :
    (c.upsert rule).resolve path = some rule := by
  rw [RuleCache.resolve, show (c.upsert rule).routes.lookup path = some rule.id from
    (h.route path _).2 hpath, Option.bind_some, get_upsert]

theorem Recalls.resolve_remove (h : c.Recalls changes) (hpath : Binds changes path id) :
    (c.remove id).1.resolve path = none := by
  rw [RuleCache.resolve, show (c.remove id).1.routes.lookup path = some id from
    (h.route path _).2 hpath, Option.bind_some]
  exact lookup_take id c.rules

/-- After any changes, what a path resolves to, what stands under a name, what is taken away and how
many rules there are is told by the latest changes. -/
theorem changes_tell (changes : List Change) : Tells changes := by
  have h := recalls_after changes
  constructor
  case resolve =>
    intro path rule
    rw [h.resolve]
    constructor
    · exact fun ⟨hbinds, hstands⟩ => ⟨rule.id, hbinds, rfl, hstands⟩
    · rintro ⟨id, hbinds, rfl, hstands⟩
      exact ⟨hbinds, hstands⟩
  case bound =>
    intro path
    rw [← exists_binds_iff]
    exact ⟨ExistsUnique.exists, fun ⟨id, hid⟩ => ⟨id, hid, fun _ hid' => hid'.unique hid⟩⟩
  case get => exact h.get
  case frame => exact fun d path => h.resolve_change_of_ne
  case frame_get => exact fun d id hname => get_change_of_ne hname _
  case remove => exact fun id => ⟨h.get id, lookup_take id _⟩
  case size => exact h.size
  case revived =>
    intro path rule hbinds
    have hremoved : Binds (changes ++ [.remove rule.id]) path rule.id :=
      (isLatest_append_singleton _ _ _ _).2 (.inr ⟨nofun, hbinds⟩)
    refine ⟨?_, ?_, ?_⟩
    · rw [after_append_singleton]
      exact h.resolve_remove hbinds
    · rw [after_append_singleton]
      exact h.resolve_upsert hbinds
    · rw [List.append_cons, after_append_singleton]
      exact (recalls_after _).resolve_upsert hremoved
  case configured => exact fun config => foldl_change_ofConfig config changes

example : (after [.bind "/chat" "chat", .upsert ⟨"chat", none, none⟩, .remove "chat",
    .upsert ⟨"chat", none, some ⟨"default", "1", .firstPerPosition⟩⟩]).resolve "/chat" =
      some ⟨"chat", none, some ⟨"default", "1", .firstPerPosition⟩⟩ := by decide

end ModerationGateway.Gateway.RuleCache
