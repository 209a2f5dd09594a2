import ModerationGateway.Words.Matcher
import ModerationGateway.Words.Source

/-!
# The matcher cache

A matcher is built once for each source, version and mode. A cell holds it; callers that find the
cell empty load the list one after the other until one of them succeeds. Forgetting a source drops
its cells from the index, but a caller that already holds a cell goes on with it, so a list loaded
before is never handed to a caller that starts after.

* `MatcherKey`, `CachedMatcher`: what names a cell, and a matcher with the load it came from;
* `MatcherCache`: all cells ever made, and the index of those in use;
* `enter`, `complete`: the two steps of a caller; `get`: a caller that is alone;
* `invalidate`: drop a source.
-/

namespace ModerationGateway.Words

/-- What a matcher is built for. -/
structure MatcherKey where
  source : String
  version : String
  mode : MatchMode
  deriving DecidableEq, Repr

/-- A matcher and the number of the load that it was built from. -/
structure CachedMatcher where
  load : Nat
  matcher : Matcher
  deriving Repr

/-- The cells made so far, the index from keys to cells in use, and the number of loads. -/
structure MatcherCache where
  cells : Array (Option CachedMatcher)
  index : List (MatcherKey × Nat)
  loads : Nat
  deriving Repr

namespace MatcherCache

/-- A cache without cells. -/
def empty : MatcherCache := ⟨#[], [], 0⟩

/-- The number of cells in use. -/
def size (c : MatcherCache) : Nat := c.index.length

/-- No cell is in use. -/
def isEmpty (c : MatcherCache) : Bool := c.index.isEmpty

/-- What a cell holds. -/
def content (c : MatcherCache) (cell : Nat) : Option CachedMatcher := (c.cells[cell]?).join

/-- A caller takes hold of the cell of a key. It is made if there is none. -/
def enter (c : MatcherCache) (key : MatcherKey) : MatcherCache × Nat :=
  match c.index.lookup key with
  | some cell => (c, cell)
  | none =>
    ({ c with cells := c.cells.push none, index := c.index ++ [(key, c.cells.size)] },
      c.cells.size)

/-- A caller whose turn it is on a cell: it takes the matcher there, or asks the source once and
fills the cell if it can. -/
def complete (c : MatcherCache) (key : MatcherKey) (cell : Nat) (source : WordSource) :
    MatcherCache × Except Fault CachedMatcher :=
  match c.content cell with
  | some found => (c, .ok found)
  | none =>
    match source.load key.source with
    | .error fault => ({ c with loads := c.loads + 1 }, .error fault)
    | .ok words =>
      let made : CachedMatcher := ⟨c.loads, .ofWords words key.mode⟩
      ({ c with cells := c.cells.setIfInBounds cell (some made), loads := c.loads + 1 }, .ok made)

/-- The matcher of a key, for a caller that is alone. -/
def get (c : MatcherCache) (key : MatcherKey) (source : WordSource) :
    MatcherCache × Except Fault CachedMatcher :=
  let (c, cell) := c.enter key
  c.complete key cell source

/-- Several callers that hold one cell have their turns. -/
def completeMany (c : MatcherCache) (key : MatcherKey) (cell : Nat) (source : WordSource) :
    Nat → MatcherCache × List (Except Fault CachedMatcher)
  | 0 => (c, [])
  | callers + 1 =>
    let (c, first) := c.complete key cell source
    let (c, others) := c.completeMany key cell source callers
    (c, first :: others)

/-- Several callers take hold of the cell of one key before the first of them has its turn. -/
def getMany (c : MatcherCache) (key : MatcherKey) (source : WordSource) (callers : Nat) :
    MatcherCache × List (Except Fault CachedMatcher) :=
  if callers = 0 then (c, [])
  else
    let (c, cell) := c.enter key
    c.completeMany key cell source callers

/-- Drop every cell of a source from the index. -/
def invalidate (c : MatcherCache) (source : String) : MatcherCache :=
  { c with index := c.index.filter fun entry => entry.1.source != source }

@[simp] theorem size_empty : empty.size = 0 := rfl

end MatcherCache

end ModerationGateway.Words
