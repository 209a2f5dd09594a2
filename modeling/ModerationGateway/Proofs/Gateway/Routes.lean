import ModerationGateway.Gateway.Rules

/-!
# Routes

The rules in force are tables in which later entries win, while a configuration is a list in which
the first rule of a name counts. A configuration that was checked names every rule once and routes
to no other rule, so the tables say what the lists say. Paths are not checked: of two routes of a
path the last one counts, and the other is dead.

* `Config.check_eq_ok_iff`: what the check establishes;
* `Config.route?`: the route of a path that counts;
* `RuleCache.rules_ofConfig`, `RuleCache.lookup_routes_ofConfig`: the tables of a configuration;
* `isInForce_ofConfig`: they resolve paths and names as the configuration does;
* `live_iff_agree`: no route is dead exactly if no two routes of a path name different rules, and
  exactly if the order of the routes does not matter.
-/

namespace ModerationGateway

/-! ### What the check establishes -/

namespace Config

theorem checkRules_eq_ok_iff (rules : List Rule) (seen : List String) :
    checkRules seen rules = .ok () ↔
      (∀ r ∈ rules, r.id ∉ seen) ∧ (rules.map (·.id)).Nodup ∧ ∀ r ∈ rules, r.check = .ok () := by
  induction rules generalizing seen with
  | nil => simp [checkRules]
  | cons r rules ih =>
    rw [checkRules]
    by_cases hseen : r.id ∈ seen
    · simp [hseen]
    · cases hr : r.check with
      | error f => simp [hseen, hr]
      | ok _ =>
        simp only [List.contains_iff_mem, hseen, if_false, ih, List.mem_cons, not_or,
          List.map_cons, List.nodup_cons, List.mem_map]
        grind

theorem checkRoutes_eq_ok_iff (ids : List String) (routes : List Route) :
    checkRoutes ids routes = .ok () ↔ ∀ r ∈ routes, r.rule ∈ ids := by
  induction routes with
  | nil => simp [checkRoutes]
  | cons r routes ih =>
    rw [checkRoutes, List.forall_mem_cons]
    by_cases hr : r.rule ∈ ids <;> simp [hr, ih]

/-- An accepted configuration has distinct names of rules, rules that can be worked with, and routes
to these rules. Nothing is said of paths. -/
theorem check_eq_ok_iff (c : Config) :
    c.check = .ok () ↔ (c.rules.map (·.id)).Nodup ∧ (∀ r ∈ c.rules, r.check = .ok ()) ∧
      ∀ r ∈ c.routes, r.rule ∈ c.rules.map (·.id) := by
  have hrules : checkRules [] c.rules = .ok () ↔
      (c.rules.map (·.id)).Nodup ∧ ∀ r ∈ c.rules, r.check = .ok () := by
    rw [checkRules_eq_ok_iff]
    exact and_iff_right fun _ _ => List.not_mem_nil
  rw [← checkRoutes_eq_ok_iff, ← and_assoc, ← hrules, check]
  cases checkRules [] c.rules with
  | error f => simp [bind, Except.bind]
  | ok _ => simp [bind, Except.bind]

/-- A name that a rule has finds a rule of that name. -/
theorem exists_rule?_of_mem {c : Config} {id : String} (h : id ∈ c.rules.map (·.id)) :
    ∃ rule, c.rule? id = some rule ∧ rule.id = id := by
  obtain ⟨rule, hrule⟩ : ∃ rule, c.rule? id = some rule := by
    rw [← Option.isSome_iff_exists, rule?, List.find?_isSome]
    simpa using h
  exact ⟨rule, hrule, by simpa using List.find?_some hrule⟩

theorem eq_of_rule?_eq {c : Config} {id id' : String} (h : id ∈ c.rules.map (·.id))
    (h' : id' ∈ c.rules.map (·.id)) (heq : c.rule? id = c.rule? id') : id = id' := by
  obtain ⟨rule, hrule, rfl⟩ := exists_rule?_of_mem h
  obtain ⟨rule', hrule', rfl⟩ := exists_rule?_of_mem h'
  rw [hrule, hrule'] at heq
  rw [Option.some.inj heq]

/-- The last route of a path. -/
def route? (c : Config) (path : String) : Option Route :=
  c.routes.reverse.find? fun r => r.path == path

end Config

/-! ### The tables of a configuration -/

namespace Gateway.RuleCache

theorem routes_foldl_upsert (rules : List Rule) (t : RuleCache) :
    (rules.foldl upsert t).routes = t.routes := by
  induction rules generalizing t with
  | nil => rfl
  | cons r rules ih => exact ih (t.upsert r)

/-- Rules of new names are entered in their order. -/
theorem rules_foldl_upsert {rules : List Rule} {t : RuleCache}
    (h : (t.rules.map Prod.fst ++ rules.map (·.id)).Nodup) :
    (rules.foldl upsert t).rules = t.rules ++ rules.map fun r => (r.id, r) := by
  induction rules generalizing t with
  | nil => simp
  | cons r rules ih =>
    rw [List.map_cons] at h
    have hnew : r.id ∉ t.rules.map Prod.fst := fun hmem =>
      (List.nodup_append.1 h).2.2 _ hmem _ List.mem_cons_self rfl
    have hput : (t.upsert r).rules = t.rules ++ [(r.id, r)] := put_of_not_mem hnew r
    rw [List.foldl_cons, ih (by simpa [hput] using h), hput]
    simp

theorem rules_foldl_bind (routes : List Route) (t : RuleCache) :
    (routes.foldl (fun t r => t.bind r.path r.rule) t).rules = t.rules := by
  induction routes generalizing t with
  | nil => rfl
  | cons r routes ih => exact ih (t.bind r.path r.rule)

/-- The last binding of a path counts. -/
theorem lookup_foldl_bind (routes : List Route) (t : RuleCache) (path : String) :
    (routes.foldl (fun t r => t.bind r.path r.rule) t).routes.lookup path =
      ((routes.reverse.find? fun r => r.path == path).map (·.rule)).or (t.routes.lookup path) := by
  induction routes generalizing t with
  | nil => simp
  | cons r routes ih =>
    rw [List.foldl_cons, ih, List.reverse_cons, List.find?_append, Option.map_or, Option.or_assoc]
    congr 1
    by_cases heq : r.path = path
    · subst heq
      simp [bind]
    · have hput := lookup_put_of_ne (Ne.symm heq) r.rule t.routes
      simp [bind, heq, hput]

variable {c : Config}

theorem rules_ofConfig (h : (c.rules.map (·.id)).Nodup) :
    (ofConfig c).rules = c.rules.map fun r => (r.id, r) := by
  rw [ofConfig, rules_foldl_bind, rules_foldl_upsert (by simpa [empty] using h)]
  exact List.nil_append _

theorem lookup_routes_ofConfig (c : Config) (path : String) :
    (ofConfig c).routes.lookup path = (c.route? path).map (·.rule) := by
  rw [ofConfig, lookup_foldl_bind, routes_foldl_upsert]
  simp [empty, Config.route?]

theorem get_ofConfig (h : (c.rules.map (·.id)).Nodup) (id : String) :
    (ofConfig c).get id = c.rule? id := by
  rw [get, rules_ofConfig h, Config.rule?]
  generalize c.rules = rules
  induction rules with
  | nil => rfl
  | cons r rules ih =>
    rw [List.map_cons, List.lookup_cons, List.find?_cons, ih, BEq.comm]

theorem resolve_ofConfig (h : (c.rules.map (·.id)).Nodup) (path : String) :
    (ofConfig c).resolve path = (c.route? path).bind fun r => c.rule? r.rule := by
  rw [resolve, lookup_routes_ofConfig, Option.bind_map]
  exact congrArg _ (funext fun r => get_ofConfig h r.rule)

/-! ### Checked configurations -/

/-- The tables say what the configuration says. -/
structure IsInForce (c : Config) (t : RuleCache) : Prop where
  /-- The last route of a path counts, and the rule is the first one of the name. -/
  resolve (path : String) : t.resolve path = (c.route? path).bind fun r => c.rule? r.rule
  /-- Only paths without a route have no rule. -/
  unbound (path : String) : t.resolve path = none ↔ ∀ r ∈ c.routes, r.path ≠ path
  bound : ∀ r ∈ c.routes, ∃ rule, t.resolve r.path = some rule
  get (id : String) : t.get id = c.rule? id
  size : t.size = c.rules.length

end Gateway.RuleCache

namespace Config

variable {c : Config} {path : String} {r : Route}

theorem route?_eq_none_iff : c.route? path = none ↔ ∀ r ∈ c.routes, r.path ≠ path := by
  simp [route?]

theorem mem_of_route?_eq (h : c.route? path = some r) : r ∈ c.routes ∧ r.path = path := by
  rw [route?] at h
  exact ⟨List.mem_reverse.1 (List.mem_of_find?_eq_some h), by simpa using List.find?_some h⟩

/-- A path that has a route has a last one. -/
theorem exists_route? (h : r ∈ c.routes) :
    ∃ s ∈ c.routes, s.path = r.path ∧ c.route? r.path = some s := by
  cases hlast : c.route? r.path with
  | none => exact absurd rfl (route?_eq_none_iff.1 hlast r h)
  | some s =>
    obtain ⟨hs, hpath⟩ := mem_of_route?_eq hlast
    exact ⟨s, hs, hpath, rfl⟩

/-- The check does not see the order of the routes. -/
theorem check_of_perm {routes : List Route} (h : c.check = .ok ()) (hperm : routes.Perm c.routes) :
    { c with routes := routes }.check = .ok () := by
  obtain ⟨hids, hrules, hroutes⟩ := c.check_eq_ok_iff.1 h
  exact (check_eq_ok_iff _).2 ⟨hids, hrules, fun r hr => hroutes r (hperm.mem_iff.1 hr)⟩

end Config

namespace Gateway.RuleCache

variable {c : Config}

/-- The rule of a path is the one its last route names, and there is such a rule. -/
theorem resolve_of_route? (h : c.check = .ok ()) {path : String} {r : Route}
    (hr : c.route? path = some r) :
    ∃ rule, (ofConfig c).resolve path = some rule ∧ c.rule? r.rule = some rule := by
  obtain ⟨hids, -, hroutes⟩ := c.check_eq_ok_iff.1 h
  obtain ⟨rule, hrule, -⟩ := Config.exists_rule?_of_mem (hroutes r (Config.mem_of_route?_eq hr).1)
  exact ⟨rule, by rw [resolve_ofConfig hids, hr, Option.bind_some, hrule], hrule⟩

theorem exists_resolve_of_mem (h : c.check = .ok ()) {r : Route} (hr : r ∈ c.routes) :
    ∃ rule, (ofConfig c).resolve r.path = some rule := by
  obtain ⟨s, -, -, hlast⟩ := Config.exists_route? hr
  obtain ⟨rule, hrule, -⟩ := resolve_of_route? h hlast
  exact ⟨rule, hrule⟩

theorem resolve_eq_none_iff (h : c.check = .ok ()) (path : String) :
    (ofConfig c).resolve path = none ↔ ∀ r ∈ c.routes, r.path ≠ path := by
  constructor
  · rintro hnone r hr rfl
    obtain ⟨rule, hrule⟩ := exists_resolve_of_mem h hr
    rw [hnone] at hrule
    cases hrule
  · intro hpath
    rw [resolve, lookup_routes_ofConfig, Config.route?_eq_none_iff.2 hpath]
    rfl

/-- A checked configuration is in force as it stands: first rules of a name and last routes of a
path are what the tables keep. -/
theorem isInForce_ofConfig (h : c.check = .ok ()) : IsInForce c (ofConfig c) := by
  have hids := (c.check_eq_ok_iff.1 h).1
  exact
    { resolve := resolve_ofConfig hids
      unbound := resolve_eq_none_iff h
      bound := fun _ hr => exists_resolve_of_mem h hr
      get := get_ofConfig hids
      size := by rw [size, rules_ofConfig hids, List.length_map] }

/-- Two rules, and a path that is routed to the one and then to the other. -/
def rebound : Config :=
  { Config.standard "words" with
    rules := [⟨"chat", none, none⟩, ⟨"drafts", none, none⟩]
    routes := [⟨"/chat", "chat"⟩, ⟨"/v1", "chat"⟩, ⟨"/chat", "drafts"⟩] }

theorem isInForce_ofConfig_rebound :
    rebound.check = .ok () ∧ IsInForce rebound (ofConfig rebound) :=
  ⟨rfl, isInForce_ofConfig rfl⟩

/-! ### Dead routes -/

/-- The path of the route has the rule that the route names. -/
def IsLive (c : Config) (r : Route) : Prop := (ofConfig c).resolve r.path = c.rule? r.rule

/-- Routes of the same path name the same rule. -/
def Agree (routes : List Route) : Prop :=
  ∀ r ∈ routes, ∀ s ∈ routes, r.path = s.path → r.rule = s.rule

instance (c : Config) (r : Route) : Decidable (IsLive c r) :=
  inferInstanceAs (Decidable ((ofConfig c).resolve r.path = c.rule? r.rule))

instance (routes : List Route) : Decidable (Agree routes) :=
  inferInstanceAs (Decidable (∀ r ∈ routes, ∀ s ∈ routes, r.path = s.path → r.rule = s.rule))

theorem resolve_eq_rule? (h : c.check = .ok ()) {path : String} {r : Route}
    (hr : c.route? path = some r) : (ofConfig c).resolve path = c.rule? r.rule := by
  obtain ⟨rule, hpath, hname⟩ := resolve_of_route? h hr
  rw [hpath, hname]

/-- Rules have one name each, so rules found by name are the same only under the same name. -/
theorem rule_eq_of_rule?_eq (h : c.check = .ok ()) {r s : Route} (hr : r ∈ c.routes)
    (hs : s ∈ c.routes) (heq : c.rule? r.rule = c.rule? s.rule) : r.rule = s.rule :=
  have hroutes := (c.check_eq_ok_iff.1 h).2.2
  Config.eq_of_rule?_eq (hroutes r hr) (hroutes s hs) heq

theorem isLive_iff (h : c.check = .ok ()) {r : Route} (hr : r ∈ c.routes) :
    IsLive c r ↔ (c.route? r.path).map (·.rule) = some r.rule := by
  obtain ⟨s, hs, -, hlast⟩ := Config.exists_route? hr
  rw [IsLive, resolve_eq_rule? h hlast, hlast, Option.map_some, Option.some_inj]
  exact ⟨rule_eq_of_rule?_eq h hs hr, congrArg c.rule?⟩

example : (rebound.routes.filter fun r => ¬ IsLive rebound r) = [⟨"/chat", "chat"⟩] := by decide

theorem isLive_of_agree (h : c.check = .ok ()) (hagree : Agree c.routes) {r : Route}
    (hr : r ∈ c.routes) : IsLive c r := by
  obtain ⟨s, hs, hpath, hlast⟩ := Config.exists_route? hr
  rw [isLive_iff h hr, hlast, Option.map_some, hagree s hs r hr hpath]

theorem agree_of_isLive (h : c.check = .ok ()) (hlive : ∀ r ∈ c.routes, IsLive c r) :
    Agree c.routes := by
  intro r hr s hs hpath
  apply rule_eq_of_rule?_eq h hr hs
  calc c.rule? r.rule = (ofConfig c).resolve r.path := (hlive r hr).symm
    _ = (ofConfig c).resolve s.path := by rw [hpath]
    _ = c.rule? s.rule := hlive s hs

theorem moveLast_perm {routes : List Route} {r : Route} (hr : r ∈ routes) :
    (routes.erase r ++ [r]).Perm routes :=
  (List.perm_append_singleton r _).trans (List.perm_cons_erase hr).symm

/-- A route that is moved to the end has its path. -/
theorem resolve_moveLast (h : c.check = .ok ()) {r : Route} (hr : r ∈ c.routes) :
    (ofConfig { c with routes := c.routes.erase r ++ [r] }).resolve r.path = c.rule? r.rule :=
  resolve_eq_rule? (Config.check_of_perm h (moveLast_perm hr)) (by simp [Config.route?])

/-- The order of the routes does not matter. -/
def IsUnordered (c : Config) : Prop :=
  ∀ routes : List Route, routes.Perm c.routes →
    ∀ path, (ofConfig { c with routes := routes }).resolve path = (ofConfig c).resolve path

theorem agree_of_isUnordered (h : c.check = .ok ()) (hany : IsUnordered c) : Agree c.routes := by
  refine agree_of_isLive h fun r hr => ?_
  -- Moving the route to the end makes it live, and by assumption changes nothing.
  rw [IsLive, ← hany _ (moveLast_perm hr), resolve_moveLast h hr]

theorem isUnordered_of_agree (h : c.check = .ok ()) (hagree : Agree c.routes) :
    IsUnordered c := by
  intro routes hperm path
  have hcheck := Config.check_of_perm h hperm
  by_cases hpath : ∃ r ∈ c.routes, r.path = path
  · obtain ⟨r, hr, rfl⟩ := hpath
    have hagree' : Agree routes := fun r hr s hs =>
      hagree r (hperm.mem_iff.1 hr) s (hperm.mem_iff.1 hs)
    exact (isLive_of_agree hcheck hagree' (hperm.mem_iff.2 hr)).trans
      (isLive_of_agree h hagree hr).symm
  · simp only [not_exists, not_and] at hpath
    rw [(resolve_eq_none_iff h path).2 hpath, (resolve_eq_none_iff hcheck path).2]
    exact fun r hr => hpath r (hperm.mem_iff.1 hr)

/-- A route of a checked configuration is live exactly if the last route of its path names the same
rule. So all are live exactly if routes of the same path agree, which is also exactly when their
order does not matter. The check does not establish this. -/
theorem live_iff_agree (h : c.check = .ok ()) :
    (∀ r ∈ c.routes, IsLive c r ↔ (c.route? r.path).map (·.rule) = some r.rule) ∧
      ((∀ r ∈ c.routes, IsLive c r) ↔ Agree c.routes) ∧ (IsUnordered c ↔ Agree c.routes) :=
  ⟨fun _ hr => isLive_iff h hr,
    ⟨agree_of_isLive h, fun hagree _ hr => isLive_of_agree h hagree hr⟩,
    ⟨agree_of_isUnordered h, isUnordered_of_agree h⟩⟩

theorem live_iff_agree_rebound :
    rebound.check = .ok () ∧ ¬ (∀ r ∈ rebound.routes, IsLive rebound r) ∧ ¬ IsUnordered rebound := by
  have hcheck : rebound.check = .ok () := rfl
  have hclash : ¬ Agree rebound.routes := by decide
  obtain ⟨-, hlive, hunordered⟩ := live_iff_agree hcheck
  exact ⟨hcheck, mt hlive.1 hclash, mt hunordered.1 hclash⟩

/-- The check accepts a configuration whose first route is dead. -/
theorem dead_route_is_checked :
    ¬ ∀ c : Config, c.check = .ok () → ∀ r ∈ c.routes, (ofConfig c).resolve r.path = c.rule? r.rule :=
  fun hall => absurd (hall rebound rfl ⟨"/chat", "chat"⟩ List.mem_cons_self) (by decide)

end Gateway.RuleCache
end ModerationGateway
