import ModerationGateway.Proofs.Words.Tree

/-!
# The paths of a trie

Putting words in makes no nodes but those on the way to them: every node of a trie stands for a
text, and the texts are the beginnings of the words.

* `Trie.IsSpanned`: every node stands for a text;
* `Trie.IsSpanned.descend`, `Trie.IsSpanned.walk`: an edge, and those of a text, with the paths that
  they add;
* `Trie.Spans`: the nodes and paths of a trie with some words; `Trie.spans_ofWords`: those of
  `Trie.ofWords`.
-/

namespace ModerationGateway.Words.Trie

variable {t : Trie} {i : Nat} {c : Char} {bs cs ds : List Char} {words : List String}

/-- Every node stands for a text. -/
def IsSpanned (t : Trie) : Prop := ∀ i < t.nodes.size, ∃ cs, locate t.nodes cs = some i

/-- An edge adds its end and the path there, if it is new. -/
theorem IsSpanned.descend (h : t.IsSpanned) (htree : IsTree t.nodes)
    (hbs : locate t.nodes bs = some i) (c : Char) :
    (t.descend i c).1.IsSpanned ∧ ∀ cs, isPath (t.descend i c).1.nodes cs = true →
      isPath t.nodes cs = true ∨ cs = bs ++ [c] := by
  obtain ⟨htree', hgrown, hchild, hlt⟩ := descend_spec htree (htree.locate_lt hbs) c
  have hend : locate (t.descend i c).1.nodes (bs ++ [c]) = some (t.descend i c).2 :=
    locate_append_singleton_iff.2 ⟨i, hgrown.reach hbs, hchild⟩
  -- a node is an old one, or the end of the edge
  have hcases : ∀ k < (t.descend i c).1.nodes.size, k < t.nodes.size ∨ k = (t.descend i c).2 := by
    unfold Trie.descend
    split
    · exact fun _ => .inl
    · intro k hk
      rw [Array.size_push, Array.size_modify] at hk
      dsimp only
      omega
  constructor
  · intro k hk
    rcases hcases k hk with hold | rfl
    · obtain ⟨cs, hcs⟩ := h k hold
      exact ⟨cs, hgrown.reach hcs⟩
    · exact ⟨bs ++ [c], hend⟩
  · intro cs hcs
    obtain ⟨k, hk⟩ := Option.isSome_iff_exists.1 hcs
    rcases hcases k (htree'.locate_lt hk) with hold | rfl
    · obtain ⟨ds, hds⟩ := h k hold
      rw [htree'.locate_inj hk (hgrown.reach hds)]
      exact .inl (isPath_of_locate hds)
    · exact .inr (htree'.locate_inj hk hend)

/-- The edges of a text add the beginnings that go beyond its start. -/
theorem IsSpanned.walk (h : t.IsSpanned) (htree : IsTree t.nodes)
    (hbs : locate t.nodes bs = some i) (ds : List Char) :
    (t.walk i ds).1.IsSpanned ∧ ∀ cs, isPath (t.walk i ds).1.nodes cs = true →
      isPath t.nodes cs = true ∨ cs <+: bs ++ ds := by
  induction ds generalizing t i bs with
  | nil => exact ⟨h, fun _ => .inl⟩
  | cons d ds ih =>
    obtain ⟨htree', hgrown, hchild, -⟩ := descend_spec htree (htree.locate_lt hbs) d
    obtain ⟨hspanned, hpaths⟩ := h.descend htree hbs d
    have hend := locate_append_singleton_iff.2 ⟨i, hgrown.reach hbs, hchild⟩
    obtain ⟨hspanned', hpaths'⟩ := ih hspanned htree' hend
    rw [walk_cons]
    refine ⟨hspanned', fun cs hcs => ?_⟩
    rw [List.append_cons]
    rcases hpaths' cs hcs with hearlier | hprefix
    · rcases hpaths cs hearlier with hold | rfl
      · exact .inl hold
      · exact .inr (List.prefix_append _ _)
    · exact .inr hprefix

/-- Every node of the trie stands for a text, and the texts are the beginnings of the words. -/
structure Spans (t : Trie) (words : List String) : Prop where
  spanned : t.IsSpanned
  path : ∀ cs, isPath t.nodes cs = true → cs = [] ∨ ∃ w ∈ words, cs <+: w.toList

theorem spans_empty : empty.Spans [] := by
  constructor
  · intro i hi
    obtain rfl : i = 0 := Nat.lt_one_iff.1 hi
    exact ⟨[], rfl⟩
  · intro cs hcs
    cases cs with
    | nil => exact .inl rfl
    | cons c cs => cases hcs

theorem Spans.insert (h : t.Spans words) (htree : IsTree t.nodes) (word : String) :
    (t.insert word).Spans (words ++ [word]) := by
  have hmore : ∀ {cs}, (cs = [] ∨ ∃ w ∈ words, cs <+: w.toList) →
      cs = [] ∨ ∃ w ∈ words ++ [word], cs <+: w.toList :=
    Or.imp_right fun ⟨w, hw, hcs⟩ => ⟨w, List.mem_append_left _ hw, hcs⟩
  unfold Trie.insert
  split
  · exact ⟨h.spanned, fun cs hcs => hmore (h.path cs hcs)⟩
  · obtain ⟨htree', -, hreach⟩ := walk_spec (i := root) htree htree.size_pos word.toList
    obtain ⟨hspanned, hpaths⟩ := h.spanned.walk htree (locate_nil t.nodes) word.toList
    have hsame : SameEdges (t.walk root word.toList).1.nodes
        ((t.walk root word.toList).1.mark (t.walk root word.toList).2 word).nodes :=
      SameEdges.modify (f := fun n => { n with word := some word }) (fun _ => rfl)
        (htree'.locate_lt hreach)
    constructor
    · intro i hi
      obtain ⟨cs, hcs⟩ := hspanned i (hsame.size ▸ hi)
      exact ⟨cs, (hsame.locate cs).trans hcs⟩
    · intro cs hcs
      rw [isPath, hsame.locate] at hcs
      rcases hpaths cs hcs with hold | hprefix
      · exact hmore (h.path cs hold)
      · exact .inr ⟨word, by simp, hprefix⟩

theorem Spans.insertAll (h : t.Spans words) (hwords : t.Holds words) (more : List String) :
    (t.insertAll more).Spans (words ++ more) := by
  induction more generalizing t words with
  | nil => simpa using h
  | cons word more ih =>
    rw [List.append_cons]
    exact ih (h.insert hwords.tree word) (hwords.insert word)

theorem spans_ofWords (words : List String) : (ofWords words).Spans words :=
  spans_empty.insertAll holds_empty words

/-- The paths of the trie of a list are the beginnings of its words. -/
theorem isPath_ofWords_iff (words : List String) (cs : List Char) :
    isPath (ofWords words).nodes cs = true ↔ cs = [] ∨ ∃ w ∈ words, cs <+: w.toList := by
  refine ⟨(spans_ofWords words).path cs, ?_⟩
  rintro (rfl | ⟨w, hw, rest, hrest⟩)
  · exact isPath_nil _
  · exact prefixClosed_isPath _ cs rest (hrest ▸ (holds_ofWords words).path w hw)

end ModerationGateway.Words.Trie
