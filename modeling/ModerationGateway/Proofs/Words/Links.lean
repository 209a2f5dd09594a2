import ModerationGateway.Proofs.Words.Tree
import ModerationGateway.Words.Matcher

/-!
# Failure links

The link of a node is to lead to the longest proper suffix of its text that is a path of the tree.
A walk along such links finds the longest suffix that goes on with a given character, so the link of
a child is found from those of shorter texts. Level by level all links come out right, in whatever
order the edges of a node are taken.

* `linkTarget`, `Linked`: where a link is to lead, and that it does;
* `follow_spec`: a walk along links that are right;
* `Advances`, `linkChild_spec`, `linkChildren_spec`, `linkLevel_spec`: one link, those below a node,
  and those below a level;
* `link_spec`: all links of a tree.
-/

namespace ModerationGateway.Words

/-- Where the link of the node of a text is to lead. -/
def linkTarget (base : Array Node) : List Char → Option Nat
  | [] => none
  | _ :: cs => locate base (longestSuffix (isPath base) cs)

/-- The link of the node of a text, if there is one, leads where it is to lead. -/
def Linked (base nodes : Array Node) (cs : List Char) : Prop :=
  ∀ i, locate base cs = some i → (nodeAt nodes i).fail = linkTarget base cs

/-- An arena that differs in its links only. -/
structure Relinked (base nodes : Array Node) : Prop extends SameEdges base nodes where
  word : ∀ i, (nodeAt nodes i).word = (nodeAt base i).word

variable {base nodes : Array Node} {i j : Nat} {c : Char} {cs : List Char}

theorem Relinked.refl (base : Array Node) : Relinked base base := ⟨.refl base, fun _ => rfl⟩

/-- The longest suffix that is a path has a node. -/
theorem exists_locate_longestSuffix (base : Array Node) (cs : List Char) :
    ∃ i, locate base (longestSuffix (isPath base) cs) = some i :=
  Option.isSome_iff_exists.1 (longestSuffix_mem (isPath_nil base) cs)

@[simp] theorem follow_none (nodes : Array Node) (c : Char) (fuel : Nat) :
    follow nodes c fuel none = root := by
  cases fuel <;> rfl

/-- A walk from the node of a text leads to the longest suffix that goes on with the character. -/
theorem follow_spec (hnodes : Relinked base nodes) (hcs : locate base cs = some i)
    (hlinked : ∀ ds, ds.length ≤ cs.length → Linked base nodes ds) {fuel : Nat}
    (hfuel : cs.length < fuel) :
    locate base (longestSuffix (isPath base) (cs ++ [c])) =
      some (follow nodes c fuel (some i)) := by
  induction fuel generalizing cs i with
  | zero => exact absurd hfuel (Nat.not_lt_zero _)
  | succ fuel ih =>
    have hnext := locate_append_singleton base cs c
    rw [hcs, Option.bind_some] at hnext
    rw [follow, hnodes.child?]
    cases hchild : (nodeAt base i).child? c with
    | some j =>
      rw [hchild] at hnext
      rwa [longestSuffix_of_mem (isPath_of_locate hnext)]
    | none =>
      have hnot : isPath base (cs ++ [c]) = false := by rw [isPath, hnext, hchild]; rfl
      have hfail := hlinked cs (Nat.le_refl _) i hcs
      -- no suffix between the text and the text of its link is a path, so none goes on
      cases cs with
      | nil =>
        rw [List.nil_append] at hnot ⊢
        rw [longestSuffix_cons_of_not_mem hnot, hfail]
        simp [linkTarget]
      | cons a as =>
        obtain ⟨f, hf⟩ := exists_locate_longestSuffix base as
        have hle := (longestSuffix_suffix (isPath base) as).length_le
        have hwalk := ih hf (fun ds hds => hlinked ds (by simp only [List.length_cons]; omega))
          (by simp only [List.length_cons] at hfuel; omega)
        rw [longestSuffix_append_singleton (prefixClosed_isPath base)] at hwalk
        rw [List.cons_append] at hnot ⊢
        rw [longestSuffix_cons_of_not_mem hnot, hfail, linkTarget, hf]
        exact hwalk

/-! ### Setting links -/

/-- Setting links leaves the arena as it is otherwise, and links that are right stay right. -/
structure Advances (base nodes nodes' : Array Node) : Prop where
  relinked : Relinked base nodes'
  linked : ∀ ds, Linked base nodes ds → Linked base nodes' ds

theorem Advances.refl (h : Relinked base nodes) : Advances base nodes nodes := ⟨h, fun _ => id⟩

theorem Advances.trans {nodes' nodes'' : Array Node} (h : Advances base nodes nodes')
    (h' : Advances base nodes' nodes'') : Advances base nodes nodes'' :=
  ⟨h'.relinked, fun ds hds => h'.linked ds (h.linked ds hds)⟩

/-- The links of all texts up to a length are right. -/
def LinkedUpTo (base nodes : Array Node) (n : Nat) : Prop :=
  ∀ ds, ds.length ≤ n → Linked base nodes ds

/-- The node that a link of a child is set to is the right one. -/
theorem linkTarget_child (htree : IsTree base) (hnodes : Relinked base nodes)
    (hcs : locate base cs = some i) (hlinked : LinkedUpTo base nodes cs.length) (c : Char) :
    linkTarget base (cs ++ [c]) = some (follow nodes c nodes.size (nodeAt nodes i).fail) := by
  have hfail := hlinked cs (Nat.le_refl _) i hcs
  cases cs with
  | nil => simp [linkTarget, hfail]
  | cons a as =>
    obtain ⟨f, hf⟩ := exists_locate_longestSuffix base as
    have hle := (longestSuffix_suffix (isPath base) as).length_le
    have hlt := htree.length_lt hcs
    rw [List.length_cons] at hlt
    have hwalk := follow_spec (c := c) hnodes hf
      (fun ds hds => hlinked ds (by simp only [List.length_cons]; omega))
      (show _ < nodes.size by rw [hnodes.size]; omega)
    rw [longestSuffix_append_singleton (prefixClosed_isPath base)] at hwalk
    rw [hfail, List.cons_append, linkTarget, linkTarget, hf]
    exact hwalk

/-- The link of a child comes out right. -/
theorem linkChild_spec (htree : IsTree base) (hnodes : Relinked base nodes)
    (hcs : locate base cs = some i) (hlinked : LinkedUpTo base nodes cs.length)
    (hchild : (nodeAt base i).child? c = some j) :
    Advances base nodes (linkChild i nodes (c, j)) ∧
      Linked base (linkChild i nodes (c, j)) (cs ++ [c]) := by
  have hj : locate base (cs ++ [c]) = some j := locate_append_singleton_iff.2 ⟨i, hcs, hchild⟩
  have hlt : j < nodes.size := hnodes.size ▸ htree.locate_lt hj
  have htarget := linkTarget_child htree hnodes hcs hlinked c
  have hnew : ∀ k, nodeAt (linkChild i nodes (c, j)) k =
      if k = j then { nodeAt nodes j with fail := linkTarget base (cs ++ [c]) }
      else nodeAt nodes k := by
    intro k
    rw [htarget]
    exact nodeAt_modify hlt k
  have hchildLinked : Linked base (linkChild i nodes (c, j)) (cs ++ [c]) := by
    intro k hk
    obtain rfl := Option.some.inj (hj.symm.trans hk)
    rw [hnew, if_pos rfl]
  refine ⟨⟨⟨hnodes.toSameEdges.trans (.modify (fun _ => rfl) hlt), fun k => ?_⟩,
    fun ds hds k hk => ?_⟩, hchildLinked⟩
  · rw [hnew]
    split
    next h => rw [← hnodes.word, h]
    · exact hnodes.word k
  · -- a link that was right is not spoiled: the node stands for no other text
    by_cases hkj : k = j
    · subst hkj
      obtain rfl := htree.locate_inj hk hj
      exact hchildLinked k hk
    · rw [hnew, if_neg hkj]
      exact hds k hk

theorem LinkedUpTo.advances {nodes' : Array Node} {n : Nat} (h : LinkedUpTo base nodes n)
    (hadvances : Advances base nodes nodes') : LinkedUpTo base nodes' n :=
  fun ds hds => hadvances.linked ds (h ds hds)

/-- The links of some children come out right, one after the other. -/
theorem foldl_linkChild_spec (htree : IsTree base) (hnodes : Relinked base nodes)
    (hcs : locate base cs = some i) (hlinked : LinkedUpTo base nodes cs.length)
    {edges : List (Char × Nat)} (hedges : ∀ c j, (c, j) ∈ edges →
      (nodeAt base i).child? c = some j) :
    Advances base nodes (edges.foldl (linkChild i) nodes) ∧
      ∀ c j, (c, j) ∈ edges → Linked base (edges.foldl (linkChild i) nodes) (cs ++ [c]) := by
  induction edges generalizing nodes with
  | nil => exact ⟨.refl hnodes, fun c j h => nomatch h⟩
  | cons edge edges ih =>
    obtain ⟨a, k⟩ := edge
    obtain ⟨hfirst, hchild⟩ :=
      linkChild_spec htree hnodes hcs hlinked (hedges a k List.mem_cons_self)
    obtain ⟨hrest, hothers⟩ := ih hfirst.relinked (hlinked.advances hfirst)
      fun c j h => hedges c j (List.mem_cons_of_mem _ h)
    refine ⟨hfirst.trans hrest, fun c j h => ?_⟩
    rcases List.mem_cons.1 h with h | h
    · cases h
      exact hrest.linked _ hchild
    · exact hothers c j h

variable {order : EdgeOrder}

/-- The links below a node come out right, whatever the order of its edges is. -/
theorem linkChildren_spec (horder : ∀ edges, (order edges).Perm edges) (htree : IsTree base)
    (hnodes : Relinked base nodes) (hcs : locate base cs = some i)
    (hlinked : LinkedUpTo base nodes cs.length) :
    Advances base nodes (linkChildren order nodes i) ∧
      ∀ c, Linked base (linkChildren order nodes i) (cs ++ [c]) := by
  have hmem : ∀ c j, (c, j) ∈ order (nodeAt nodes i).edges ↔
      (nodeAt base i).child? c = some j := by
    intro c j
    rw [(horder _).mem_iff, hnodes.edges, child?_eq_some_iff (htree.chars i)]
  obtain ⟨hadvances, hchildren⟩ := foldl_linkChild_spec htree hnodes hcs hlinked
    fun c j h => (hmem c j).1 h
  refine ⟨hadvances, fun c j hj => ?_⟩
  obtain ⟨k, hk, hchild⟩ := locate_append_singleton_iff.1 hj
  obtain rfl := Option.some.inj (hcs.symm.trans hk)
  exact hchildren c j ((hmem c j).2 hchild) j hj

/-- The nodes of a level are those of the texts of a length. -/
def IsLevel (base : Array Node) (n : Nat) (level : List Nat) : Prop :=
  ∀ i, i ∈ level ↔ ∃ cs, cs.length = n ∧ locate base cs = some i

/-- The links below some nodes of a level come out right. -/
theorem foldl_linkChildren_spec (horder : ∀ edges, (order edges).Perm edges) (htree : IsTree base)
    (hnodes : Relinked base nodes) {n : Nat} (hlinked : LinkedUpTo base nodes n)
    {level : List Nat} (hlevel : ∀ i ∈ level, ∃ cs, cs.length = n ∧ locate base cs = some i) :
    Advances base nodes (level.foldl (linkChildren order) nodes) ∧
      ∀ i ∈ level, ∀ cs, locate base cs = some i → ∀ c,
        Linked base (level.foldl (linkChildren order) nodes) (cs ++ [c]) := by
  induction level generalizing nodes with
  | nil => exact ⟨.refl hnodes, fun i h => nomatch h⟩
  | cons k level ih =>
    obtain ⟨ds, rfl, hds⟩ := hlevel k List.mem_cons_self
    obtain ⟨hfirst, hchildren⟩ := linkChildren_spec horder htree hnodes hds hlinked
    obtain ⟨hrest, hothers⟩ := ih hfirst.relinked (hlinked.advances hfirst)
      fun i hi => hlevel i (List.mem_cons_of_mem _ hi)
    refine ⟨hfirst.trans hrest, fun i hi cs hcs c => ?_⟩
    rcases List.mem_cons.1 hi with rfl | hi
    · obtain rfl := htree.locate_inj hcs hds
      exact hrest.linked _ (hchildren c)
    · exact hothers i hi cs hcs c

/-- The links below a level come out right. -/
theorem linkLevel_spec (horder : ∀ edges, (order edges).Perm edges) (htree : IsTree base)
    (hnodes : Relinked base nodes) {n : Nat} (hlinked : LinkedUpTo base nodes n)
    {level : List Nat} (hlevel : IsLevel base n level) :
    Relinked base (level.foldl (linkChildren order) nodes) ∧
      LinkedUpTo base (level.foldl (linkChildren order) nodes) (n + 1) := by
  obtain ⟨hadvances, hchildren⟩ := foldl_linkChildren_spec horder htree hnodes hlinked
    fun i hi => (hlevel i).1 hi
  refine ⟨hadvances.relinked, fun ds hds => ?_⟩
  rcases Nat.lt_or_ge n ds.length with hlt | hge
  · rcases List.eq_nil_or_concat ds with rfl | ⟨cs, c, rfl⟩
    · exact absurd hlt (Nat.not_lt_zero _)
    · rw [List.concat_eq_append] at hds hlt ⊢
      rw [List.length_append, List.length_singleton] at hds hlt
      intro j hj
      obtain ⟨i, hi, -⟩ := locate_append_singleton_iff.1 hj
      exact hchildren i ((hlevel i).2 ⟨cs, by omega, hi⟩) cs hi c j hj
  · exact hadvances.linked ds (hlinked ds hge)

theorem isLevel_nextLevel (horder : ∀ edges, (order edges).Perm edges) (htree : IsTree base)
    (hnodes : Relinked base nodes) {n : Nat} {level : List Nat} (hlevel : IsLevel base n level) :
    IsLevel base (n + 1) (nextLevel order nodes level) := by
  intro j
  simp only [nextLevel, List.mem_flatMap, List.mem_map, (horder _).mem_iff, hnodes.edges]
  constructor
  · rintro ⟨i, hi, ⟨c, j⟩, hedge, rfl⟩
    obtain ⟨cs, hlength, hcs⟩ := (hlevel i).1 hi
    refine ⟨cs ++ [c], by simp [hlength], locate_append_singleton_iff.2 ⟨i, hcs, ?_⟩⟩
    exact (child?_eq_some_iff (htree.chars i)).2 hedge
  · rintro ⟨ds, hlength, hds⟩
    rcases List.eq_nil_or_concat ds with rfl | ⟨cs, c, rfl⟩
    · cases hlength
    · rw [List.concat_eq_append] at hds hlength
      obtain ⟨i, hi, hchild⟩ := locate_append_singleton_iff.1 hds
      refine ⟨i, (hlevel i).2 ⟨cs, by simpa using hlength, hi⟩, (c, j), ?_, rfl⟩
      exact mem_edges_of_child? hchild

/-- A level without nodes is beyond the longest texts. -/
theorem not_isPath_of_isLevel_nil {n : Nat} (hlevel : IsLevel base n []) (hle : n ≤ cs.length) :
    isPath base cs = false := by
  rw [← Bool.not_eq_true]
  intro hcs
  have hfront : isPath base (cs.take n) = true :=
    prefixClosed_isPath base _ (cs.drop n) (by rwa [List.take_append_drop])
  obtain ⟨i, hi⟩ := Option.isSome_iff_exists.1 hfront
  exact nomatch (hlevel i).2 ⟨cs.take n, List.length_take_of_le hle, hi⟩

/-- Level by level, the links of longer and longer texts come out right. -/
theorem linkLevels_spec (horder : ∀ edges, (order edges).Perm edges) (htree : IsTree base)
    (hnodes : Relinked base nodes) {n : Nat} (hlinked : LinkedUpTo base nodes n)
    {level : List Nat} (hlevel : IsLevel base n level) (fuel : Nat) :
    Relinked base (linkLevels order fuel level nodes) ∧
      LinkedUpTo base (linkLevels order fuel level nodes) (n + fuel) := by
  induction fuel generalizing nodes n level with
  | zero => exact ⟨hnodes, hlinked⟩
  | succ fuel ih =>
    rw [linkLevels]
    split
    next hempty =>
      obtain rfl := List.isEmpty_iff.1 hempty
      refine ⟨hnodes, fun ds hds i hi => ?_⟩
      rcases Nat.le_total ds.length n with hle | hle
      · exact hlinked ds hle i hi
      · have hnot := not_isPath_of_isLevel_nil hlevel hle
        rw [isPath_of_locate hi] at hnot
        contradiction
    · obtain ⟨hnodes', hlinked'⟩ := linkLevel_spec horder htree hnodes hlinked hlevel
      have hrest := ih hnodes' hlinked' (isLevel_nextLevel horder htree hnodes hlevel)
      rwa [Nat.add_assoc, Nat.add_comm 1] at hrest

/-- The root has no link to set. -/
theorem linkedUpTo_zero (hroot : (nodeAt base root).fail = none) : LinkedUpTo base base 0 := by
  intro ds hds i hi
  obtain rfl := List.eq_nil_of_length_eq_zero (Nat.le_zero.1 hds)
  cases hi
  exact hroot

theorem isLevel_root (base : Array Node) : IsLevel base 0 [root] := by
  intro i
  rw [List.mem_singleton]
  constructor
  · rintro rfl
    exact ⟨[], rfl, rfl⟩
  · rintro ⟨cs, hlength, hcs⟩
    obtain rfl := List.eq_nil_of_length_eq_zero hlength
    exact (Option.some.inj hcs).symm

/-- All links of a tree come out right, and nothing else changes. -/
theorem link_spec (horder : ∀ edges, (order edges).Perm edges) (htree : IsTree base)
    (hroot : (nodeAt base root).fail = none) :
    Relinked base (link order base) ∧ ∀ cs, Linked base (link order base) cs := by
  obtain ⟨hnodes, hlinked⟩ := linkLevels_spec horder htree (.refl base) (linkedUpTo_zero hroot)
    (isLevel_root base) base.size
  refine ⟨hnodes, fun cs i hi => hlinked cs ?_ i hi⟩
  rw [Nat.zero_add]
  exact Nat.le_of_lt (htree.length_lt hi)

end ModerationGateway.Words
