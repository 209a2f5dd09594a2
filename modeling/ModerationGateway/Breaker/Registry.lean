import ModerationGateway.Breaker.Basic

/-!
# The breakers of a gateway

Breakers are found by key. Asking for a key with the settings that its breaker has gives that
breaker; other settings give a fresh one in its place, while calls on the old one go on apart.

* `BreakerId`, `Registry`: all breakers ever made, and the index of those in use, sorted by key;
* `Registry.getOrCreate`: the breaker of a key;
* `Registry.breaker?`, `Registry.update`: a breaker by its identity;
* `Registry.snapshots`: what is told of the breakers in use.
-/

namespace ModerationGateway.Breaker

/-- The identity of a breaker: its position among all breakers made. -/
abbrev BreakerId := Nat

/-- All breakers made, and those in use by key, in the order of the keys. -/
structure Registry where
  made : List CircuitBreaker
  index : List (String × BreakerId)
  deriving DecidableEq, Repr

namespace Registry

/-- The registry without breakers. -/
def empty : Registry := ⟨[], []⟩

/-- The number of keys in use. -/
def size (r : Registry) : Nat := r.index.length

/-- No key is in use. -/
def isEmpty (r : Registry) : Bool := r.index.isEmpty

/-- A breaker by its identity. -/
def breaker? (r : Registry) (id : BreakerId) : Option CircuitBreaker := r.made[id]?

/-- Change a breaker. -/
def update (r : Registry) (id : BreakerId) (b : CircuitBreaker) : Registry :=
  { r with made := r.made.set id b }

/-- Put a key into an index that is sorted by key. -/
def place (key : String) (id : BreakerId) :
    List (String × BreakerId) → List (String × BreakerId)
  | [] => [(key, id)]
  | (other, old) :: rest =>
    if key = other then (key, id) :: rest
    else if key < other then (key, id) :: (other, old) :: rest
    else (other, old) :: place key id rest

/-- Make a fresh breaker for a key. -/
def create (r : Registry) (key : String) (settings : BreakerSettings) (now : Nat) :
    Registry × BreakerId :=
  (⟨r.made ++ [.fresh key settings now], place key r.made.length r.index⟩, r.made.length)

/-- The breaker in use for a key. -/
def find? (r : Registry) (key : String) : Option (BreakerId × CircuitBreaker) := do
  let id ← r.index.lookup key
  some (id, ← r.breaker? id)

/-- The breaker of a key. It is made if there is none, or none with these settings. -/
def getOrCreate (r : Registry) (key : String) (settings : BreakerSettings) (now : Nat) :
    Registry × BreakerId :=
  match r.find? key with
  | some (id, b) => if b.settings = settings then (r, id) else r.create key settings now
  | none => r.create key settings now

/-- What is told of the breakers in use, in the order of the keys. -/
def snapshots (r : Registry) : List (String × Snapshot) :=
  r.index.filterMap fun (key, id) => (r.breaker? id).map fun b => (key, b.snapshot)

theorem getOrCreate_of_settings_eq {r : Registry} {key : String} {settings : BreakerSettings}
    {id : BreakerId} {b : CircuitBreaker} (h : r.find? key = some (id, b))
    (hs : b.settings = settings) (now : Nat) : r.getOrCreate key settings now = (r, id) := by
  simp [getOrCreate, h, hs]

end Registry

end ModerationGateway.Breaker
