import ModerationGateway.Stream.Window
import ModerationGateway.Text.Utf8

/-!
# Requests in flight

Every moderated request holds a guard in a registry for as long as it lives. Letting the guard go
takes the request out and counts it, once more if it was blocked.

* `InFlight`, `InFlight.register`, `InFlight.release`: the registry and its two moves;
* `Guard`: what a live request holds;
* `Request`, `Request.open`, `Request.block`: the state of a moderated answer. The first payload
  that blocks it stays.
-/

namespace ModerationGateway.Stream

/-- The name of a request, never given twice by one registry. -/
abbrev RequestId := Nat

/-- The live requests with their rules, and counts of those that are over. -/
structure InFlight where
  entries : List (RequestId × String)
  nextId : RequestId
  finished : Nat
  blocked : Nat
  deriving DecidableEq, Repr

/-- What a live request holds. -/
structure Guard where
  id : RequestId
  isBlocked : Bool
  deriving DecidableEq, Repr

namespace InFlight

/-- The registry without requests. -/
def empty : InFlight := ⟨[], 0, 0, 0⟩

/-- The number of live requests. -/
def size (r : InFlight) : Nat := r.entries.length

/-- There is no live request. -/
def isEmpty (r : InFlight) : Bool := r.entries.isEmpty

/-- The rule of a live request. -/
def rule? (r : InFlight) (id : RequestId) : Option String := r.entries.lookup id

/-- The request is live. -/
def contains (r : InFlight) (id : RequestId) : Bool := (r.rule? id).isSome

/-- Enter a request under its rule. -/
def register (r : InFlight) (rule : String) : InFlight × Guard :=
  ({ r with entries := r.entries ++ [(r.nextId, rule)], nextId := r.nextId + 1 },
    ⟨r.nextId, false⟩)

/-- Let a guard go. A request that is not in the registry is not counted. -/
def release (r : InFlight) (g : Guard) : InFlight :=
  if r.contains g.id then
    { r with
      entries := r.entries.filter fun entry => entry.1 != g.id
      finished := r.finished + 1
      blocked := if g.isBlocked then r.blocked + 1 else r.blocked }
  else r

@[simp] theorem size_empty : empty.size = 0 := rfl

@[simp] theorem size_register (r : InFlight) (rule : String) :
    (r.register rule).1.size = r.size + 1 := by
  simp [register, size]

end InFlight

/-- The state of a moderated answer. -/
structure Request where
  window : Window
  /-- How many batches were decided on. -/
  batches : Nat
  /-- How many checks were made. -/
  checks : Nat
  /-- What is sent in place of the answer, once it is blocked. -/
  payload : Option Bytes
  guard : Guard
  deriving DecidableEq, Repr

namespace Request

/-- The state before the first batch. -/
def ofGuard (windowSize : Nat) (guard : Guard) : Request := ⟨.ofSize windowSize, 0, 0, none, guard⟩

/-- Enter a request and make its state. -/
def start (r : InFlight) (rule : String) (windowSize : Nat) : InFlight × Request :=
  let (r, guard) := r.register rule
  (r, ofGuard windowSize guard)

/-- The answer is blocked. -/
def isBlocked (q : Request) : Bool := q.payload.isSome

/-- Block the answer. Only the first payload counts. -/
def block (q : Request) (payload : Bytes) : Request :=
  match q.payload with
  | some _ => q
  | none => { q with payload := some payload, guard := { q.guard with isBlocked := true } }

@[simp] theorem isBlocked_block (q : Request) (payload : Bytes) :
    (q.block payload).isBlocked = true := by
  unfold block isBlocked
  split <;> simp_all

end Request

end ModerationGateway.Stream
