import ModerationGateway.Words.Trie

/-!
# Searching a text for many words at once

A trie becomes an automaton by failure links: the link of a node leads to the node that stands for
the longest proper suffix of its text that the trie holds. The links are set level by level, so
those of shorter texts are there when they are needed. A scan then keeps the longest suffix of the
text read so far that is a path of the trie, and the words ending at a position are those along
the links from there, longest first.

* `follow`: the links from a node up to one that has the wanted edge;
* `link`: all failure links of an arena, the edges of each node taken in any order;
* `MatchMode`, `Matcher`: the frozen automaton and which hits it reports;
* `Matcher.search`, `Matcher.isMatch`: the hits of a text, and whether there is one.

Links lead to shorter texts, so the size of the arena bounds every walk along them.
-/

namespace ModerationGateway.Words

/-- Walk along the links from a node to the first one with an edge for the character, and take
it. Where there is none the walk ends at the root. -/
def follow (nodes : Array Node) (c : Char) : Nat → Option Nat → Nat
  | 0, _ => root
  | _ + 1, none => root
  | fuel + 1, some i =>
    match (nodeAt nodes i).child? c with
    | some j => j
    | none => follow nodes c fuel (nodeAt nodes i).fail

/-- Set the link of a child: walk along the links of its parent, the parent itself left out. -/
def linkChild (parent : Nat) (nodes : Array Node) (edge : Char × Nat) : Array Node :=
  let target := follow nodes edge.1 nodes.size (nodeAt nodes parent).fail
  nodes.modify edge.2 fun n => { n with fail := some target }

/-- An order in which to take the edges of each node. -/
abbrev EdgeOrder := List (Char × Nat) → List (Char × Nat)

/-- Set the links of all children of a node. -/
def linkChildren (order : EdgeOrder) (nodes : Array Node) (parent : Nat) : Array Node :=
  (order (nodeAt nodes parent).edges).foldl (linkChild parent) nodes

/-- The children of the nodes of a level. -/
def nextLevel (order : EdgeOrder) (nodes : Array Node) (level : List Nat) : List Nat :=
  level.flatMap fun i => (order (nodeAt nodes i).edges).map (·.2)

/-- Set the links below the nodes of a level, and so on downwards. -/
def linkLevels (order : EdgeOrder) : Nat → List Nat → Array Node → Array Node
  | 0, _, nodes => nodes
  | fuel + 1, level, nodes =>
    if level.isEmpty then nodes
    else
      linkLevels order fuel (nextLevel order nodes level) (level.foldl (linkChildren order) nodes)

/-- All failure links of an arena. -/
def link (order : EdgeOrder) (nodes : Array Node) : Array Node :=
  linkLevels order nodes.size [root] nodes

/-- Which words are reported where several end at one position: the longest, or all of them. -/
inductive MatchMode where
  | firstPerPosition
  | allPerPosition
  deriving DecidableEq, Repr

/-- A frozen automaton. -/
structure Matcher where
  nodes : Array Node
  size : Nat
  mode : MatchMode
  deriving Repr

/-- The matcher of a trie, its edges taken in the given order. -/
def Trie.freezeIn (order : EdgeOrder) (t : Trie) (mode : MatchMode) : Matcher :=
  ⟨link order t.nodes, t.size, mode⟩

/-- The matcher of a trie. -/
def Trie.freeze (t : Trie) (mode : MatchMode) : Matcher := t.freezeIn id mode

namespace Matcher

/-- The matcher of a list of words. -/
def ofWords (words : List String) (mode : MatchMode) : Matcher := (Trie.ofWords words).freeze mode

/-- There is no word to look for. -/
def isEmpty (m : Matcher) : Bool := m.size == 0

/-- The node after one more character. -/
def step (m : Matcher) (i : Nat) (c : Char) : Nat := follow m.nodes c m.nodes.size (some i)

/-- The words along the links from a node up to the root, longest first. -/
def wordsFrom (m : Matcher) : Nat → Nat → List String
  | 0, _ => []
  | fuel + 1, i =>
    if i = root then []
    else (nodeAt m.nodes i).word.toList ++ m.wordsFrom fuel ((nodeAt m.nodes i).fail.getD root)

/-- Some word lies along the links from a node. -/
def hasWordFrom (m : Matcher) : Nat → Nat → Bool
  | 0, _ => false
  | fuel + 1, i =>
    if i = root then false
    else (nodeAt m.nodes i).word.isSome ||
      m.hasWordFrom fuel ((nodeAt m.nodes i).fail.getD root)

/-- The hits reported at a node. -/
def hitsAt (m : Matcher) (i : Nat) : List String :=
  let words := m.wordsFrom m.nodes.size i
  match m.mode with
  | .firstPerPosition => words.take 1
  | .allPerPosition => words

/-- The hits of the characters that follow, from a node. -/
def searchFrom (m : Matcher) (i : Nat) : List Char → List String
  | [] => []
  | c :: cs => m.hitsAt (m.step i c) ++ m.searchFrom (m.step i c) cs

/-- Some word ends in the characters that follow, from a node. -/
def isMatchFrom (m : Matcher) (i : Nat) : List Char → Bool
  | [] => false
  | c :: cs => m.hasWordFrom m.nodes.size (m.step i c) || m.isMatchFrom (m.step i c) cs

/-- The hits of a text, by end position. -/
def search (m : Matcher) (text : String) : List String := m.searchFrom root text.toList

/-- Some word occurs in a text. -/
def isMatch (m : Matcher) (text : String) : Bool := m.isMatchFrom root text.toList

/-- The node reached after a text. -/
def state (m : Matcher) (cs : List Char) : Nat := cs.foldl m.step root

@[simp] theorem searchFrom_nil (m : Matcher) (i : Nat) : m.searchFrom i [] = [] := rfl

theorem searchFrom_cons (m : Matcher) (i : Nat) (c : Char) (cs : List Char) :
    m.searchFrom i (c :: cs) = m.hitsAt (m.step i c) ++ m.searchFrom (m.step i c) cs := rfl

@[simp] theorem isMatchFrom_nil (m : Matcher) (i : Nat) : m.isMatchFrom i [] = false := rfl

theorem searchFrom_append (m : Matcher) (i : Nat) (cs ds : List Char) :
    m.searchFrom i (cs ++ ds) = m.searchFrom i cs ++ m.searchFrom (cs.foldl m.step i) ds := by
  induction cs generalizing i with
  | nil => simp
  | cons c cs ih => simp [searchFrom_cons, ih]

theorem hasWordFrom_eq (m : Matcher) (fuel i : Nat) :
    m.hasWordFrom fuel i = !(m.wordsFrom fuel i).isEmpty := by
  induction fuel generalizing i with
  | zero => rfl
  | succ fuel ih =>
    simp only [hasWordFrom, wordsFrom]
    split
    · rfl
    · rw [ih]
      cases (nodeAt m.nodes i).word <;> simp

/-- Either mode reports something where some word ends. -/
theorem hitsAt_eq_nil_iff (m : Matcher) (i : Nat) :
    m.hitsAt i = [] ↔ m.wordsFrom m.nodes.size i = [] := by
  unfold hitsAt
  cases m.mode with
  | firstPerPosition => cases m.wordsFrom m.nodes.size i <;> simp
  | allPerPosition => rfl

/-- The scan that stops at the first hit and the one that collects all hits agree on any arena. -/
theorem isMatchFrom_eq_false_iff (m : Matcher) (i : Nat) (cs : List Char) :
    m.isMatchFrom i cs = false ↔ m.searchFrom i cs = [] := by
  induction cs generalizing i with
  | nil => exact iff_of_true rfl rfl
  | cons c cs ih =>
    rw [isMatchFrom, Bool.or_eq_false_iff, ih, searchFrom_cons, List.append_eq_nil_iff,
      hitsAt_eq_nil_iff, hasWordFrom_eq, Bool.not_eq_false', List.isEmpty_iff]

theorem isMatch_iff_search_ne_nil (m : Matcher) (text : String) :
    m.isMatch text = true ↔ m.search text ≠ [] := by
  rw [search, ne_eq, ← isMatchFrom_eq_false_iff, Bool.not_eq_false, isMatch]

end Matcher

end ModerationGateway.Words
