import ModerationGateway.Proofs.Words.Suffix
import ModerationGateway.Words.Trie

/-!
# The tree in an arena

The edges of an arena form a tree: they lead from earlier nodes to later ones, and no two lead to
the same node. Every node that can be reached from the root therefore stands for one text.

* `reach`, `locate`: the node at the end of a path, from a node and from the root;
* `IsTree`: the edges form a tree; `locate_inj`: a node stands for one text at most;
* `Grown`: an arena with more edges, but the same words and links;
* `Holds`: the words of a trie; `holds_ofWords`: those of `Trie.ofWords` are the words put in.
-/

namespace ModerationGateway.Words

/-! ### Paths -/

/-- The node at the end of a path from a node. -/
def reach (nodes : Array Node) : Nat → List Char → Option Nat
  | i, [] => some i
  | i, c :: cs =>
    match (nodeAt nodes i).child? c with
    | none => none
    | some j => reach nodes j cs

/-- The node that stands for a text. -/
def locate (nodes : Array Node) (cs : List Char) : Option Nat := reach nodes root cs

/-- Some node stands for a text. -/
def isPath (nodes : Array Node) (cs : List Char) : Bool := (locate nodes cs).isSome

variable {nodes nodes' : Array Node} {i j k : Nat} {c d : Char} {cs ds : List Char}

@[simp] theorem reach_nil (nodes : Array Node) (i : Nat) : reach nodes i [] = some i := rfl

theorem reach_cons (nodes : Array Node) (i : Nat) (c : Char) (cs : List Char) :
    reach nodes i (c :: cs) = ((nodeAt nodes i).child? c).bind fun j => reach nodes j cs := by
  rw [reach]
  cases (nodeAt nodes i).child? c <;> rfl

theorem reach_append (nodes : Array Node) (i : Nat) (cs ds : List Char) :
    reach nodes i (cs ++ ds) = (reach nodes i cs).bind fun j => reach nodes j ds := by
  induction cs generalizing i with
  | nil => rfl
  | cons c cs ih =>
    rw [List.cons_append, reach_cons, reach_cons]
    cases (nodeAt nodes i).child? c with
    | none => rfl
    | some j => exact ih j

@[simp] theorem locate_nil (nodes : Array Node) : locate nodes [] = some root := rfl

theorem locate_append_singleton (nodes : Array Node) (cs : List Char) (c : Char) :
    locate nodes (cs ++ [c]) = (locate nodes cs).bind fun i => (nodeAt nodes i).child? c := by
  rw [locate, reach_append]
  simp [locate, reach_cons]

/-- The last edge on the way to a node. -/
theorem locate_append_singleton_iff :
    locate nodes (cs ++ [c]) = some j ↔
      ∃ i, locate nodes cs = some i ∧ (nodeAt nodes i).child? c = some j := by
  rw [locate_append_singleton, Option.bind_eq_some_iff]

theorem isPath_nil (nodes : Array Node) : isPath nodes [] = true := rfl

theorem prefixClosed_isPath (nodes : Array Node) : PrefixClosed (isPath nodes) := by
  intro cs ds h
  rw [isPath, locate, reach_append, Option.isSome_bind] at h
  cases hcs : reach nodes root cs with
  | none => simp [hcs] at h
  | some i => simp [isPath, locate, hcs]

theorem isPath_of_locate (h : locate nodes cs = some i) : isPath nodes cs = true := by
  simp [isPath, h]

/-! ### Trees -/

/-- The edges of an arena form a tree. -/
structure IsTree (nodes : Array Node) : Prop where
  size_pos : 0 < nodes.size
  /-- Edges lead to later nodes. -/
  target : ∀ {i c j}, (c, j) ∈ (nodeAt nodes i).edges → i < j ∧ j < nodes.size
  /-- The edges of a node have different characters. -/
  chars : ∀ i, ((nodeAt nodes i).edges.map Prod.fst).Nodup
  /-- No two edges lead to the same node. -/
  parent : ∀ {i k c d j}, (c, j) ∈ (nodeAt nodes i).edges → (d, j) ∈ (nodeAt nodes k).edges →
    i = k ∧ c = d

theorem mem_edges_of_child? {n : Node} (h : n.child? c = some j) : (c, j) ∈ n.edges := by
  obtain ⟨front, back, hedges, -⟩ := List.lookup_eq_some_iff.1 h
  simp [hedges]

theorem child?_eq_some_iff {n : Node} (hn : (n.edges.map Prod.fst).Nodup) :
    n.child? c = some j ↔ (c, j) ∈ n.edges := by
  refine ⟨mem_edges_of_child?, fun h => ?_⟩
  obtain ⟨front, back, hedges⟩ := List.append_of_mem h
  refine List.lookup_eq_some_iff.2 ⟨front, back, hedges, fun p hp => ?_⟩
  rw [hedges, List.map_append, List.nodup_append] at hn
  have hne := hn.2.2 p.1 (List.mem_map_of_mem hp) c (by simp)
  simpa using hne.symm

namespace IsTree

theorem lt_of_child? (h : IsTree nodes) (hchild : (nodeAt nodes i).child? c = some j) :
    i < j ∧ j < nodes.size := h.target (mem_edges_of_child? hchild)

/-- A path leads to a node of the arena, and every character of it to a later one. -/
theorem reach_bounds (h : IsTree nodes) (hi : i < nodes.size) (hreach : reach nodes i cs = some j) :
    i + cs.length ≤ j ∧ j < nodes.size := by
  induction cs generalizing i with
  | nil =>
    cases hreach
    exact ⟨Nat.le_refl _, hi⟩
  | cons c cs ih =>
    rw [reach_cons, Option.bind_eq_some_iff] at hreach
    obtain ⟨k, hchild, hreach⟩ := hreach
    have hk := h.lt_of_child? hchild
    have hj := ih hk.2 hreach
    rw [List.length_cons]
    omega

theorem length_le (h : IsTree nodes) (hcs : locate nodes cs = some i) : cs.length ≤ i := by
  have hbounds := (h.reach_bounds h.size_pos hcs).1
  simpa [root] using hbounds

theorem locate_lt (h : IsTree nodes) (hcs : locate nodes cs = some i) : i < nodes.size :=
  (h.reach_bounds h.size_pos hcs).2

/-- The arena is larger than any text that has a node. -/
theorem length_lt (h : IsTree nodes) (hcs : locate nodes cs = some i) : cs.length < nodes.size :=
  Nat.lt_of_le_of_lt (h.length_le hcs) (h.locate_lt hcs)

theorem eq_nil_of_locate_root (h : IsTree nodes) (hcs : locate nodes cs = some root) : cs = [] :=
  List.eq_nil_of_length_eq_zero (Nat.le_zero.1 (h.length_le hcs))

/-- A node stands for one text at most. -/
theorem locate_inj (h : IsTree nodes) (hcs : locate nodes cs = some i)
    (hds : locate nodes ds = some i) : cs = ds := by
  induction cs using List.reverseRecOn generalizing ds i with
  | nil =>
    cases hcs
    exact (h.eq_nil_of_locate_root hds).symm
  | append_singleton cs c ih =>
    obtain ⟨k, hk, hchild⟩ := locate_append_singleton_iff.1 hcs
    rcases List.eq_nil_or_concat ds with rfl | ⟨ds, d, rfl⟩
    · cases hds
      exact absurd (h.lt_of_child? hchild).1 (Nat.not_lt_zero _)
    · rw [List.concat_eq_append] at hds ⊢
      obtain ⟨l, hl, hchild'⟩ := locate_append_singleton_iff.1 hds
      obtain ⟨rfl, rfl⟩ := h.parent (mem_edges_of_child? hchild) (mem_edges_of_child? hchild')
      rw [ih hk hl]

end IsTree

/-! ### Changes of an arena -/

theorem nodeAt_of_size_le (h : nodes.size ≤ i) : nodeAt nodes i = .leaf := by
  simp [nodeAt, h]

theorem nodeAt_modify {f : Node → Node} (hi : i < nodes.size) (k : Nat) :
    nodeAt (nodes.modify i f) k = if k = i then f (nodeAt nodes i) else nodeAt nodes k := by
  unfold nodeAt
  rw [Array.getElem?_modify]
  by_cases hk : k = i
  · subst hk
    simp [hi]
  · simp [hk, Ne.symm hk]

@[simp] theorem nodeAt_push_leaf (nodes : Array Node) (k : Nat) :
    nodeAt (nodes.push .leaf) k = nodeAt nodes k := by
  unfold nodeAt
  rw [Array.getElem?_push]
  split
  next h => simp [h]
  · rfl

/-- An arena with the same edges; words and links may differ. -/
structure SameEdges (nodes nodes' : Array Node) : Prop where
  size : nodes'.size = nodes.size
  edges : ∀ i, (nodeAt nodes' i).edges = (nodeAt nodes i).edges

namespace SameEdges

theorem refl (nodes : Array Node) : SameEdges nodes nodes := ⟨rfl, fun _ => rfl⟩

theorem trans {nodes'' : Array Node} (h : SameEdges nodes nodes')
    (h' : SameEdges nodes' nodes'') : SameEdges nodes nodes'' :=
  ⟨h'.size.trans h.size, fun i => (h'.edges i).trans (h.edges i)⟩

theorem modify {f : Node → Node} (hf : ∀ n, (f n).edges = n.edges) (hi : i < nodes.size) :
    SameEdges nodes (nodes.modify i f) := by
  refine ⟨Array.size_modify, fun k => ?_⟩
  rw [nodeAt_modify hi]
  split
  next hk => rw [hf, hk]
  · rfl

theorem child? (h : SameEdges nodes nodes') (i : Nat) (c : Char) :
    (nodeAt nodes' i).child? c = (nodeAt nodes i).child? c := by
  rw [Node.child?, Node.child?, h.edges]

theorem locate (h : SameEdges nodes nodes') (cs : List Char) :
    Words.locate nodes' cs = Words.locate nodes cs := by
  suffices hreach : ∀ i, reach nodes' i cs = reach nodes i cs from hreach root
  induction cs with
  | nil => exact fun _ => rfl
  | cons c cs ih =>
    intro i
    simp only [reach_cons, h.child?, ih]

theorem isTree (h : SameEdges nodes nodes') (htree : IsTree nodes) : IsTree nodes' where
  size_pos := h.size ▸ htree.size_pos
  target hj := h.size ▸ htree.target (h.edges _ ▸ hj)
  chars i := h.edges i ▸ htree.chars i
  parent hj hj' := htree.parent (h.edges _ ▸ hj) (h.edges _ ▸ hj')

end SameEdges

/-- One more edge, to a new node, leaves a tree. -/
theorem IsTree.addEdge (h : IsTree nodes) (hi : i < nodes.size)
    (hchild : (nodeAt nodes i).child? c = none) (hsize : nodes'.size = nodes.size + 1)
    (hedges : ∀ k, (nodeAt nodes' k).edges =
      (nodeAt nodes k).edges ++ if k = i then [(c, nodes.size)] else []) : IsTree nodes' := by
  have hmem : ∀ {k d j}, (d, j) ∈ (nodeAt nodes' k).edges ↔
      (d, j) ∈ (nodeAt nodes k).edges ∨ (k = i ∧ d = c ∧ j = nodes.size) := by
    intro k d j
    rw [hedges, List.mem_append]
    by_cases hk : k = i
    · simp [hk]
    · simp [hk]
  refine ⟨by omega, fun hj => ?_, fun k => ?_, fun hj hj' => ?_⟩
  · rcases hmem.1 hj with hj | ⟨rfl, -, rfl⟩
    · have hbounds := h.target hj
      omega
    · omega
  · have hchars := h.chars k
    rw [hedges]
    by_cases hk : k = i
    · subst hk
      rw [if_pos rfl, List.map_append, List.nodup_append]
      refine ⟨hchars, by simp, fun d hd e he hde => ?_⟩
      obtain ⟨p, hp, rfl⟩ := List.mem_map.1 hd
      have hne : c ≠ p.1 := by simpa using List.lookup_eq_none_iff.1 hchild p hp
      have hec : e = c := by simpa using he
      exact hne (hec ▸ hde).symm
    · simpa [hk] using hchars
  · rcases hmem.1 hj with hj | ⟨rfl, rfl, rfl⟩
    · rcases hmem.1 hj' with hj' | ⟨-, -, rfl⟩
      · exact h.parent hj hj'
      · exact absurd (h.target hj).2 (Nat.lt_irrefl _)
    · rcases hmem.1 hj' with hj' | ⟨rfl, rfl, -⟩
      · exact absurd (h.target hj').2 (Nat.lt_irrefl _)
      · exact ⟨rfl, rfl⟩

/-- An arena with more edges, but the same words and links. -/
structure Grown (nodes nodes' : Array Node) : Prop where
  child? : ∀ {i c j}, (nodeAt nodes i).child? c = some j → (nodeAt nodes' i).child? c = some j
  word : ∀ i, (nodeAt nodes' i).word = (nodeAt nodes i).word
  fail : ∀ i, (nodeAt nodes' i).fail = (nodeAt nodes i).fail

namespace Grown

theorem refl (nodes : Array Node) : Grown nodes nodes := ⟨id, fun _ => rfl, fun _ => rfl⟩

theorem trans {nodes'' : Array Node} (h : Grown nodes nodes') (h' : Grown nodes' nodes'') :
    Grown nodes nodes'' :=
  ⟨h'.child? ∘ h.child?, fun i => (h'.word i).trans (h.word i),
    fun i => (h'.fail i).trans (h.fail i)⟩

theorem reach (h : Grown nodes nodes') (hreach : reach nodes i cs = some j) :
    Words.reach nodes' i cs = some j := by
  induction cs generalizing i with
  | nil => exact hreach
  | cons c cs ih =>
    rw [reach_cons, Option.bind_eq_some_iff] at hreach ⊢
    obtain ⟨k, hchild, hreach⟩ := hreach
    exact ⟨k, h.child? hchild, ih hreach⟩

end Grown

/-! ### Putting a word in -/

namespace Trie

variable {t : Trie}

/-- A new edge, if the node has none for the character, leads to a new leaf. -/
theorem descend_spec (h : IsTree t.nodes) (hi : i < t.nodes.size) (c : Char) :
    IsTree (t.descend i c).1.nodes ∧ Grown t.nodes (t.descend i c).1.nodes ∧
      (nodeAt (t.descend i c).1.nodes i).child? c = some (t.descend i c).2 ∧
      (t.descend i c).2 < (t.descend i c).1.nodes.size := by
  unfold descend
  split
  next j hchild => exact ⟨h, .refl _, hchild, (h.lt_of_child? hchild).2⟩
  next hchild =>
    -- the edges of the node are the old ones and the new one
    have hedges : ∀ k, (nodeAt ((t.nodes.modify i fun n => n.addEdge c t.nodes.size).push .leaf)
        k).edges = (nodeAt t.nodes k).edges ++ if k = i then [(c, t.nodes.size)] else [] := by
      intro k
      rw [nodeAt_push_leaf, nodeAt_modify hi]
      by_cases hk : k = i
      · simp [hk, Node.addEdge]
      · simp [hk]
    have htree := h.addEdge hi hchild (by simp) hedges
    refine ⟨htree, ⟨fun hold => ?_, fun k => ?_, fun k => ?_⟩, ?_, by simp⟩
    · rw [child?_eq_some_iff (htree.chars _), hedges]
      exact List.mem_append_left _ (mem_edges_of_child? hold)
    · rw [nodeAt_push_leaf, nodeAt_modify hi]
      split
      next hk => rw [hk, Node.addEdge]
      · rfl
    · rw [nodeAt_push_leaf, nodeAt_modify hi]
      split
      next hk => rw [hk, Node.addEdge]
      · rfl
    · rw [child?_eq_some_iff (htree.chars _), hedges]
      simp

/-- A walk makes the path that it follows. -/
theorem walk_spec (h : IsTree t.nodes) (hi : i < t.nodes.size) (cs : List Char) :
    IsTree (t.walk i cs).1.nodes ∧ Grown t.nodes (t.walk i cs).1.nodes ∧
      reach (t.walk i cs).1.nodes i cs = some (t.walk i cs).2 := by
  induction cs generalizing t i with
  | nil => exact ⟨h, .refl _, rfl⟩
  | cons c cs ih =>
    obtain ⟨htree, hgrown, hchild, hj⟩ := descend_spec h hi c
    obtain ⟨htree', hgrown', hreach⟩ := ih htree hj
    refine ⟨htree', hgrown.trans hgrown', ?_⟩
    rw [walk_cons, reach_cons, hgrown'.child? hchild]
    exact hreach

/-- The words of a trie: each stands at the node of its text, and there are no others. -/
structure Holds (t : Trie) (words : List String) : Prop where
  tree : IsTree t.nodes
  word : ∀ w i, (nodeAt t.nodes i).word = some w ↔
    w ≠ "" ∧ w ∈ words ∧ locate t.nodes w.toList = some i
  path : ∀ w ∈ words, isPath t.nodes w.toList = true
  fail : ∀ i, (nodeAt t.nodes i).fail = none

theorem holds_empty : empty.Holds [] := by
  have hleaf : ∀ i, nodeAt empty.nodes i = .leaf := by
    intro i
    cases i with
    | zero => rfl
    | succ i => exact nodeAt_of_size_le (Nat.le_add_left 1 i)
  refine ⟨⟨Nat.one_pos, ?_, ?_, ?_⟩, ?_, ?_, ?_⟩
  all_goals simp [hleaf, Node.leaf]

/-- New edges leave the words where they are. -/
theorem Holds.grown {t' : Trie} {words : List String} (h : t.Holds words)
    (htree : IsTree t'.nodes) (hgrown : Grown t.nodes t'.nodes) : t'.Holds words := by
  refine ⟨htree, fun w i => ?_, fun w hw => ?_, fun i => (hgrown.fail i).trans (h.fail i)⟩
  · rw [hgrown.word, h.word]
    refine and_congr_right fun _ => and_congr_right fun hw => ⟨hgrown.reach, fun hi => ?_⟩
    obtain ⟨k, hk⟩ := Option.isSome_iff_exists.1 (h.path w hw)
    rw [hk, ← hi]
    exact (hgrown.reach hk).symm
  · obtain ⟨k, hk⟩ := Option.isSome_iff_exists.1 (h.path w hw)
    exact isPath_of_locate (hgrown.reach hk)

/-- A mark adds its word. -/
theorem Holds.mark {words : List String} {word : String} (h : t.Holds words) (hword : word ≠ "")
    (hi : locate t.nodes word.toList = some i) : (t.mark i word).Holds (words ++ [word]) := by
  have hlt := h.tree.locate_lt hi
  have hsame : SameEdges t.nodes (t.mark i word).nodes :=
    SameEdges.modify (f := fun n => { n with word := some word }) (fun _ => rfl) hlt
  have hmark : ∀ k, nodeAt (t.mark i word).nodes k =
      if k = i then { nodeAt t.nodes i with word := some word } else nodeAt t.nodes k :=
    nodeAt_modify hlt
  refine ⟨hsame.isTree h.tree, fun w k => ?_, fun w hw => ?_, fun k => ?_⟩
  · rw [hmark, hsame.locate, List.mem_append, List.mem_singleton]
    by_cases hk : k = i
    · subst hk
      rw [if_pos rfl, Option.some.injEq]
      constructor
      · rintro rfl
        exact ⟨hword, .inr rfl, hi⟩
      · rintro ⟨-, -, hw⟩
        exact String.toList_injective (h.tree.locate_inj hi hw)
    · rw [if_neg hk, h.word]
      constructor
      · exact fun ⟨hne, hw, hlocate⟩ => ⟨hne, .inl hw, hlocate⟩
      · rintro ⟨hne, hw | rfl, hlocate⟩
        · exact ⟨hne, hw, hlocate⟩
        · exact absurd (Option.some.inj (hlocate.symm.trans hi)) hk
  · rw [isPath, hsame.locate]
    rcases List.mem_append.1 hw with hw | hw
    · exact h.path w hw
    · rw [List.mem_singleton.1 hw, hi]
      rfl
  · rw [hmark]
    split
    · exact h.fail i
    · exact h.fail k

/-- Putting a word in adds it to the words. -/
theorem Holds.insert {words : List String} (h : t.Holds words) (word : String) :
    (t.insert word).Holds (words ++ [word]) := by
  unfold Trie.insert
  split
  next hempty =>
    obtain rfl : word = "" := String.isEmpty_iff.1 hempty
    refine ⟨h.tree, fun w i => ?_, fun w hw => ?_, h.fail⟩
    · rw [h.word, List.mem_append, List.mem_singleton]
      refine and_congr_right fun hne => and_congr_left fun _ => ⟨.inl, fun hw => ?_⟩
      exact hw.resolve_right hne
    · rcases List.mem_append.1 hw with hw | hw
      · exact h.path w hw
      · rw [List.mem_singleton.1 hw]
        exact isPath_nil _
  next hempty =>
    obtain ⟨htree, hgrown, hreach⟩ := walk_spec h.tree h.tree.size_pos word.toList
    exact (h.grown htree hgrown).mark (fun hw => hempty (String.isEmpty_iff.2 hw)) hreach

theorem Holds.insertAll {words : List String} (h : t.Holds words) (more : List String) :
    (t.insertAll more).Holds (words ++ more) := by
  induction more generalizing t words with
  | nil => simpa using h
  | cons word more ih =>
    have hlater := ih (h.insert word)
    rwa [List.append_assoc] at hlater

/-- The words of the trie of a list are those of the list, except the empty one. -/
theorem holds_ofWords (words : List String) : (ofWords words).Holds words :=
  holds_empty.insertAll words

end Trie

end ModerationGateway.Words
