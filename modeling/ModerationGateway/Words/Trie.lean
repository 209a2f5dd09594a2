/-!
# The trie of a word list

Nodes live in an array and name each other by position; node `0` is the root. A node stands for
the text along the edges that lead to it, and carries a word if that text is one.

* `Node`, `Trie`: the arena;
* `Trie.insert`, `Trie.ofWords`: words put in, one edge at a time;
* `Trie.size`: the number of distinct words.
-/

namespace ModerationGateway.Words

/-- A node: its outgoing edges, its failure link once there is one, and the word ending here. -/
structure Node where
  edges : List (Char × Nat)
  fail : Option Nat
  word : Option String
  deriving DecidableEq, Repr

namespace Node

/-- A node without edges, link and word. -/
def leaf : Node := ⟨[], none, none⟩

/-- The node at the end of an edge. -/
def child? (n : Node) (c : Char) : Option Nat := n.edges.lookup c

/-- The node with one more edge. -/
def addEdge (n : Node) (c : Char) (target : Nat) : Node :=
  { n with edges := n.edges ++ [(c, target)] }

end Node

/-- The position of the root. -/
def root : Nat := 0

/-- The node at a position; beyond the arena it is a leaf. -/
def nodeAt (nodes : Array Node) (i : Nat) : Node := nodes[i]?.getD .leaf

/-- An arena of nodes and the number of words in it. -/
structure Trie where
  nodes : Array Node
  size : Nat
  deriving Repr

namespace Trie

/-- The trie without words. -/
def empty : Trie := ⟨#[.leaf], 0⟩

/-- Follow the edge of a character, making it first if it is missing. -/
def descend (t : Trie) (i : Nat) (c : Char) : Trie × Nat :=
  match (nodeAt t.nodes i).child? c with
  | some j => (t, j)
  | none =>
    let j := t.nodes.size
    ({ t with nodes := (t.nodes.modify i fun n => n.addEdge c j).push .leaf }, j)

/-- Follow the edges of a text, making those that are missing. -/
def walk (t : Trie) (i : Nat) : List Char → Trie × Nat
  | [] => (t, i)
  | c :: cs =>
    let (t, j) := t.descend i c
    t.walk j cs

/-- Let a word end at a node. It counts if none ended there. -/
def mark (t : Trie) (i : Nat) (word : String) : Trie :=
  { nodes := t.nodes.modify i fun n => { n with word := some word }
    size := if (nodeAt t.nodes i).word.isNone then t.size + 1 else t.size }

/-- Put a word in. The empty word is left out. -/
def insert (t : Trie) (word : String) : Trie :=
  if word.isEmpty then t
  else
    let (t, i) := t.walk root word.toList
    t.mark i word

/-- Put words in, one after the other. -/
def insertAll (t : Trie) (words : List String) : Trie := words.foldl insert t

/-- The trie of a list of words. -/
def ofWords (words : List String) : Trie := empty.insertAll words

@[simp] theorem walk_nil (t : Trie) (i : Nat) : t.walk i [] = (t, i) := rfl

theorem walk_cons (t : Trie) (i : Nat) (c : Char) (cs : List Char) :
    t.walk i (c :: cs) = (t.descend i c).1.walk (t.descend i c).2 cs := rfl

@[simp] theorem insertAll_nil (t : Trie) : t.insertAll [] = t := rfl

@[simp] theorem insertAll_append (t : Trie) (ws vs : List String) :
    t.insertAll (ws ++ vs) = (t.insertAll ws).insertAll vs := by
  simp [insertAll]

end Trie

end ModerationGateway.Words
