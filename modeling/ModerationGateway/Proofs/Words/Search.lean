import ModerationGateway.Proofs.Words.Links

/-!
# A search finds what a naive scan finds

After every text the automaton stands at the node of the longest suffix that is a path, and the
words along the links from there are all the words that the text ends in.

* `endingIn`: the words that a text ends in, longest first, by trying every suffix;
* `IsScan`, `isScan_endingIn`: which they are, and their order;
* `step_spec`, `state_spec`, `wordsFrom_spec`: one character, a text, and the words at a node;
* `search_eq_scan`: the hits of a search are those of the naive scan.
-/

namespace ModerationGateway.Words

/-! ### The naive scan -/

/-- The words of a list that a text ends in, longest first. The empty word is left out. -/
def endingIn (words : List String) (cs : List Char) : List String :=
  (cs.tails.map String.ofList).filter fun w => w ≠ "" ∧ w ∈ words

theorem mem_endingIn {words : List String} {cs : List Char} {w : String} :
    w ∈ endingIn words cs ↔ w ∈ words ∧ w ≠ "" ∧ w.toList <:+ cs := by
  have hsuffix : (∃ ds, ds <:+ cs ∧ String.ofList ds = w) ↔ w.toList <:+ cs := by
    constructor
    · rintro ⟨ds, hds, rfl⟩
      rwa [String.toList_ofList]
    · exact fun h => ⟨w.toList, h, String.ofList_toList⟩
  simp only [endingIn, List.mem_filter, List.mem_map, List.mem_tails, hsuffix, decide_eq_true_eq]
  tauto

/-- The words that a text ends in are different, and longer ones come first. -/
theorem pairwise_endingIn (words : List String) (cs : List Char) :
    (endingIn words cs).Pairwise fun v w => w.length < v.length := by
  refine List.Pairwise.filter _ (List.pairwise_map.2 ?_)
  induction cs with
  | nil => exact List.pairwise_singleton _ _
  | cons c cs ih =>
    rw [List.tails_cons]
    refine List.Pairwise.cons (fun ds hds => ?_) ih
    have hle := ((List.mem_tails _ _).1 hds).length_le
    simp only [String.length_ofList, List.length_cons]
    omega

/-- The words of a list that a text ends in, each of them once and longer ones first. -/
structure IsScan (words : List String) (cs : List Char) (found : List String) : Prop where
  mem_iff : ∀ w, w ∈ found ↔ w ∈ words ∧ w ≠ "" ∧ w.toList <:+ cs
  ordered : found.Pairwise fun v w => w.length < v.length

theorem isScan_endingIn (words : List String) (cs : List Char) :
    IsScan words cs (endingIn words cs) where
  mem_iff _ := mem_endingIn
  ordered := pairwise_endingIn words cs

/-- What is reported where some words end, longest first. -/
def report : MatchMode → List String → List String
  | .firstPerPosition, words => words.take 1
  | .allPerPosition, words => words

/-! ### The automaton -/

/-- The word at the node of a text. -/
def nodeWord (base : Array Node) (cs : List Char) : Option String :=
  (locate base cs).bind fun i => (nodeAt base i).word

theorem nodeWord_of_not_isPath {base : Array Node} {cs : List Char} (h : isPath base cs = false) :
    nodeWord base cs = none := by
  have hnone : locate base cs = none := by simpa [isPath] using h
  rw [nodeWord, hnone, Option.bind_none]

/-- The words of a trie stand at the nodes of their texts. -/
theorem Trie.Holds.nodeWord_eq {t : Trie} {words : List String} (h : t.Holds words)
    (cs : List Char) :
    nodeWord t.nodes cs =
      if String.ofList cs ≠ "" ∧ String.ofList cs ∈ words then some (String.ofList cs)
      else none := by
  split
  next hw =>
    obtain ⟨i, hi⟩ := Option.isSome_iff_exists.1 (h.path _ hw.2)
    have hword := (h.word _ i).2 ⟨hw.1, hw.2, hi⟩
    rw [String.toList_ofList] at hi
    rw [nodeWord, hi, Option.bind_some, hword]
  next hw =>
    rw [nodeWord, Option.bind_eq_none_iff]
    intro i hi
    cases hword : (nodeAt t.nodes i).word with
    | none => rfl
    | some w =>
      obtain ⟨hne, hmem, hlocate⟩ := (h.word w i).1 hword
      rw [h.tree.locate_inj hi hlocate, String.ofList_toList] at hw
      exact absurd ⟨hne, hmem⟩ hw

/-- The words at the nodes of the suffixes of a text are those that it ends in. -/
theorem Trie.Holds.filterMap_nodeWord {t : Trie} {words : List String} (h : t.Holds words)
    (cs : List Char) : cs.tails.filterMap (nodeWord t.nodes) = endingIn words cs := by
  rw [endingIn, List.filter_map, ← List.filterMap_eq_map, List.filterMap_filter]
  congr 1
  funext ds
  simp [h.nodeWord_eq]

namespace Matcher

/-- A matcher with the links of a tree. -/
structure IsLinked (base : Array Node) (m : Matcher) : Prop where
  tree : IsTree base
  relinked : Relinked base m.nodes
  linked : ∀ cs, Linked base m.nodes cs

variable {base : Array Node} {m : Matcher} {i fuel : Nat} {cs : List Char}

/-- One more character leads to the longest suffix that is a path. -/
theorem IsLinked.step_spec (h : m.IsLinked base) (hcs : locate base cs = some i) (c : Char) :
    locate base (longestSuffix (isPath base) (cs ++ [c])) = some (m.step i c) := by
  refine follow_spec h.relinked hcs (fun ds _ => h.linked ds) ?_
  rw [h.relinked.size]
  exact h.tree.length_lt hcs

/-- After a text the automaton is at the node of its longest suffix that is a path. -/
theorem IsLinked.state_spec (h : m.IsLinked base) (cs : List Char) :
    locate base (longestSuffix (isPath base) cs) = some (m.state cs) := by
  induction cs using List.reverseRecOn with
  | nil => rfl
  | append_singleton cs c ih =>
    have hstep := h.step_spec ih c
    rw [longestSuffix_append_singleton (prefixClosed_isPath base)] at hstep
    rw [hstep, state, state, List.foldl_concat]

/-- The words along the links from a node are those at the suffixes of its text. -/
theorem IsLinked.wordsFrom_spec (h : m.IsLinked base) (hroot : (nodeAt base root).word = none)
    (hcs : locate base cs = some i) (hfuel : cs.length < fuel) :
    m.wordsFrom fuel i = cs.tails.filterMap (nodeWord base) := by
  induction fuel generalizing cs i with
  | zero => exact absurd hfuel (Nat.not_lt_zero _)
  | succ fuel ih =>
    have hfail := h.linked cs i hcs
    rw [wordsFrom]
    cases cs with
    | nil =>
      cases hcs
      simp [nodeWord, hroot]
    | cons a as =>
      have hne : i ≠ root := by
        rintro rfl
        cases h.tree.eq_nil_of_locate_root hcs
      obtain ⟨f, hf⟩ := exists_locate_longestSuffix base as
      have hle := (longestSuffix_suffix (isPath base) as).length_le
      -- the link skips suffixes that are no paths, and no words stand there
      have hrest := ih hf (by rw [List.length_cons] at hfuel; omega)
      rw [filterMap_tails_longestSuffix fun ds => nodeWord_of_not_isPath] at hrest
      have hword : nodeWord base (a :: as) = (nodeAt base i).word := by
        rw [nodeWord, hcs, Option.bind_some]
      rw [if_neg hne, hfail, linkTarget, hf, Option.getD_some, hrest, h.relinked.word,
        List.tails_cons, List.filterMap_cons, hword]
      cases (nodeAt base i).word <;> rfl

variable {t : Trie} {words : List String}

/-- The hits at the node of the longest suffix of a text are the words that the text ends in. -/
theorem IsLinked.hitsAt_spec (h : m.IsLinked t.nodes) (hwords : t.Holds words)
    (hcs : locate t.nodes (longestSuffix (isPath t.nodes) cs) = some i) :
    m.hitsAt i = report m.mode (endingIn words cs) := by
  have hroot : (nodeAt t.nodes root).word = none := by
    cases hword : (nodeAt t.nodes root).word with
    | none => rfl
    | some w =>
      obtain ⟨hne, -, hlocate⟩ := (hwords.word w root).1 hword
      have hnil := hwords.tree.eq_nil_of_locate_root hlocate
      exact absurd (String.toList_eq_nil_iff.1 hnil) hne
  have hfuel : (longestSuffix (isPath t.nodes) cs).length < m.nodes.size := by
    rw [h.relinked.size]
    exact h.tree.length_lt hcs
  rw [hitsAt, h.wordsFrom_spec hroot hcs hfuel,
    filterMap_tails_longestSuffix fun ds => nodeWord_of_not_isPath, hwords.filterMap_nodeWord]
  cases m.mode <;> rfl

/-- The hits of the characters that follow a text, from the node of its longest suffix. -/
theorem IsLinked.searchFrom_spec (h : m.IsLinked t.nodes) (hwords : t.Holds words)
    (hcs : locate t.nodes (longestSuffix (isPath t.nodes) cs) = some i) (ds : List Char) :
    m.searchFrom i ds = (List.range ds.length).flatMap fun k =>
      report m.mode (endingIn words (cs ++ ds.take (k + 1))) := by
  induction ds generalizing cs i with
  | nil => rfl
  | cons d ds ih =>
    have hstep := h.step_spec hcs d
    rw [longestSuffix_append_singleton (prefixClosed_isPath t.nodes)] at hstep
    rw [searchFrom_cons, h.hitsAt_spec hwords hstep, ih hstep, List.length_cons,
      List.range_succ_eq_map, List.flatMap_cons, List.flatMap_map]
    simp

/-- The links of a trie come out right in any order of the edges. -/
theorem isLinked_freezeIn {order : EdgeOrder} (horder : ∀ edges, (order edges).Perm edges)
    (hwords : t.Holds words) (mode : MatchMode) : (t.freezeIn order mode).IsLinked t.nodes := by
  obtain ⟨hrelinked, hlinked⟩ := link_spec horder hwords.tree (hwords.fail root)
  exact ⟨hwords.tree, hrelinked, hlinked⟩

/-- A search reports at every place of the text the words that end there, longest first, or the
longest one only. -/
theorem search_eq_scan (order : EdgeOrder) (horder : ∀ edges, (order edges).Perm edges)
    (words : List String) (mode : MatchMode) (text : String) :
    (((Trie.ofWords words).freezeIn order mode).search text =
      (List.range text.toList.length).flatMap fun k =>
        report mode (endingIn words (text.toList.take (k + 1)))) ∧
      ∀ cs, IsScan words cs (endingIn words cs) := by
  have hwords := Trie.holds_ofWords words
  have hstart : locate (Trie.ofWords words).nodes
      (longestSuffix (isPath (Trie.ofWords words).nodes) []) = some root := rfl
  exact ⟨(isLinked_freezeIn horder hwords mode).searchFrom_spec hwords hstart text.toList,
    isScan_endingIn words⟩

theorem search_eq_scan_ushers :
    (∀ edges : List (Char × Nat), edges.reverse.Perm edges) ∧
      ((Trie.ofWords ["he", "she", "", "hers", "his", "she"]).freezeIn List.reverse
        .allPerPosition).search "ushers" = ["she", "he", "hers"] := by
  refine ⟨List.reverse_perm, ?_⟩
  rw [(search_eq_scan List.reverse List.reverse_perm _ _ _).1]
  decide +kernel

end Matcher

end ModerationGateway.Words
