import ModerationGateway.Association
import ModerationGateway.Config.Basic

/-!
# The rules in force

Paths are bound to rule names and names to rules, so a rule can be replaced or taken away and come
back while its paths stay bound.

* `RuleCache`: rules by name, and rule names by path;
* `upsert`, `remove`, `bind`: the changes;
* `resolve`, `get`: the rule of a path, and of a name.
-/

namespace ModerationGateway.Gateway

/-- Rules by name, and rule names by path. -/
structure RuleCache where
  rules : Association Rule
  routes : Association String
  deriving DecidableEq, Repr

namespace RuleCache

/-- No rules and no paths. -/
def empty : RuleCache := ⟨[], []⟩

/-- Put a rule under its name. -/
def upsert (c : RuleCache) (rule : Rule) : RuleCache :=
  { c with rules := put rule.id rule c.rules }

/-- The rule of a name. -/
def get (c : RuleCache) (id : String) : Option Rule := c.rules.lookup id

/-- Take a rule away. Paths bound to its name stay bound. -/
def remove (c : RuleCache) (id : String) : RuleCache × Option Rule :=
  ({ c with rules := take id c.rules }, c.get id)

/-- Bind a path to a rule name. -/
def bind (c : RuleCache) (path id : String) : RuleCache :=
  { c with routes := put path id c.routes }

/-- The rule of a path, if the path is bound and the rule is there. -/
def resolve (c : RuleCache) (path : String) : Option Rule := (c.routes.lookup path).bind c.get

/-- The number of rules. -/
def size (c : RuleCache) : Nat := c.rules.length

/-- There is no rule. -/
def isEmpty (c : RuleCache) : Bool := c.rules.isEmpty

/-- The rules and routes of a configuration, later ones winning. -/
def ofConfig (config : Config) : RuleCache :=
  let c := config.rules.foldl upsert empty
  config.routes.foldl (fun c r => c.bind r.path r.rule) c

@[simp] theorem get_upsert (c : RuleCache) (rule : Rule) :
    (c.upsert rule).get rule.id = some rule := by
  simp [upsert, get]

theorem get_upsert_of_ne {rule : Rule} {id : String} (h : id ≠ rule.id) (c : RuleCache) :
    (c.upsert rule).get id = c.get id := by
  simp [upsert, get, lookup_put_of_ne h]

@[simp] theorem get_bind (c : RuleCache) (path id other : String) :
    (c.bind path id).get other = c.get other := rfl

end RuleCache

end ModerationGateway.Gateway
