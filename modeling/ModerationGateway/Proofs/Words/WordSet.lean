import Mathlib.Data.Finset.Card
import ModerationGateway.Proofs.Words.Joined

/-!
# The set of words

Words are put into a trie one by one or several at once, in any order and any number of times. The
order shows in the numbers of the nodes, and the links are set in whatever order the edges are
taken. The matcher does not tell: its size and what it finds depend on the set of words alone, the
empty one left out, and the set can be told from what it finds.

* `Addition`, `Trie.build`: the calls that put words in, and the trie after some of them;
* `wordSet`: the words of a list as a set, without the empty one;
* `size_insert`, `size_ofWords`: the size of a trie is the number of its words;
* `endingIn_congr`, `mem_search_self_iff`: what is found is told from the set, and the set from it;
* `depends_on_wordSet`: both together, for any calls and any orders of the edges.
-/

namespace ModerationGateway.Words

/-! ### Calls -/

/-- A call that puts words into a trie: one word, or some, one after the other. -/
inductive Addition where
  | insert (word : String)
  | extend (words : List String)
  deriving DecidableEq, Repr

/-- The words that are put in by a call. -/
def Addition.words : Addition → List String
  | insert word => [word]
  | extend words => words

namespace Trie

/-- The trie after a call. -/
def add (t : Trie) : Addition → Trie
  | .insert word => t.insert word
  | .extend words => t.insertAll words

/-- The trie after some calls. -/
def build (calls : List Addition) : Trie := calls.foldl add empty

theorem add_eq_insertAll (t : Trie) (call : Addition) : t.add call = t.insertAll call.words := by
  cases call <;> rfl

/-- Where a call ends and another one begins does not matter. -/
theorem build_eq_ofWords (calls : List Addition) :
    build calls = ofWords (calls.flatMap Addition.words) := by
  suffices h : ∀ t : Trie, calls.foldl add t = t.insertAll (calls.flatMap Addition.words) from
    h empty
  induction calls with
  | nil => exact fun _ => rfl
  | cons call calls ih =>
    intro t
    rw [List.foldl_cons, ih, add_eq_insertAll, List.flatMap_cons, insertAll_append]

end Trie

/-! ### The number of words -/

variable {words others : List String} {word : String} {t : Trie}

/-- The words of a list as a set, without the empty one. -/
def wordSet (words : List String) : Finset String := words.toFinset.erase ""

theorem mem_wordSet : word ∈ wordSet words ↔ word ≠ "" ∧ word ∈ words := by
  rw [wordSet, Finset.mem_erase, List.mem_toFinset]

theorem wordSet_append_singleton (words : List String) (word : String) :
    wordSet (words ++ [word]) =
      if word = "" then wordSet words else insert word (wordSet words) := by
  ext w
  split
  next h => subst h; simp only [mem_wordSet, List.mem_append, List.mem_singleton]; grind
  next h => simp only [mem_wordSet, List.mem_append, List.mem_singleton, Finset.mem_insert]; grind

namespace Trie

@[simp] theorem size_descend (t : Trie) (i : Nat) (c : Char) : (t.descend i c).1.size = t.size := by
  unfold descend
  split <;> rfl

@[simp] theorem size_walk (t : Trie) (i : Nat) (cs : List Char) :
    (t.walk i cs).1.size = t.size := by
  induction cs generalizing t i with
  | nil => rfl
  | cons c cs ih => rw [walk_cons, ih, size_descend]

/-- No word stands at the node of a text exactly if the text is none of the words. -/
theorem Holds.isNone_word_iff (h : t.Holds words) (hword : word ≠ "") {i : Nat}
    (hi : locate t.nodes word.toList = some i) :
    (nodeAt t.nodes i).word.isNone = true ↔ word ∉ words := by
  rw [Option.isNone_iff_eq_none]
  constructor
  · intro hnone hmem
    rw [(h.word word i).2 ⟨hword, hmem, hi⟩] at hnone
    contradiction
  · intro hnew
    cases hother : (nodeAt t.nodes i).word with
    | none => rfl
    | some other =>
      obtain ⟨-, hmem, hother⟩ := (h.word other i).1 hother
      have heq := String.toList_injective (h.tree.locate_inj hi hother)
      exact absurd (heq ▸ hmem) hnew

/-- A word counts if it is new. -/
theorem size_insert (h : t.Holds words) (hsize : t.size = (wordSet words).card) (word : String) :
    (t.insert word).size = (wordSet (words ++ [word])).card := by
  rw [wordSet_append_singleton]
  unfold insert
  split
  next hempty => rw [if_pos (String.isEmpty_iff.1 hempty), hsize]
  next hempty =>
    have hword : word ≠ "" := fun hw => hempty (String.isEmpty_iff.2 hw)
    obtain ⟨htree, hgrown, hreach⟩ := walk_spec (i := root) h.tree h.tree.size_pos word.toList
    have hnew := (h.grown htree hgrown).isNone_word_iff hword hreach
    rw [if_neg hword]
    dsimp only [mark]
    rw [size_walk, hsize]
    by_cases hmem : word ∈ words
    · rw [if_neg (mt hnew.1 (not_not_intro hmem)),
        Finset.insert_eq_of_mem (mem_wordSet.2 ⟨hword, hmem⟩)]
    · rw [if_pos (hnew.2 hmem), Finset.card_insert_of_notMem fun hin => hmem (mem_wordSet.1 hin).2]

theorem size_insertAll (h : t.Holds words) (hsize : t.size = (wordSet words).card)
    (more : List String) : (t.insertAll more).size = (wordSet (words ++ more)).card := by
  induction more generalizing t words with
  | nil => rw [List.append_nil, insertAll_nil, hsize]
  | cons word more ih =>
    have hrest := ih (h.insert word) (size_insert h hsize word)
    rwa [List.append_assoc] at hrest

/-- The size of a trie is the number of its words. -/
theorem size_ofWords (words : List String) : (ofWords words).size = (wordSet words).card :=
  size_insertAll holds_empty rfl words

end Trie

/-! ### What is found -/

/-- The words that a text ends in are told from the set of words. -/
theorem endingIn_congr (h : wordSet words = wordSet others) (cs : List Char) :
    endingIn words cs = endingIn others cs := by
  refine List.filter_congr fun w _ => ?_
  rw [decide_eq_decide, ← mem_wordSet, ← mem_wordSet, h]

/-- The longest word that a word ends in is that word. -/
theorem exists_endingIn_eq_cons (hword : word ≠ "") (hmem : word ∈ words) :
    ∃ shorter, endingIn words word.toList = word :: shorter := by
  obtain ⟨rest, hrest⟩ : ∃ rest, word.toList.tails = word.toList :: rest := by
    cases word.toList <;> exact ⟨_, rfl⟩
  rw [endingIn, hrest, List.map_cons, String.ofList_toList]
  exact ⟨_, List.filter_cons_of_pos (decide_eq_true ⟨hword, hmem⟩)⟩

theorem report_subset (mode : MatchMode) (hits : List String) : report mode hits ⊆ hits := by
  cases mode
  · exact List.take_subset 1 hits
  · exact List.Subset.refl hits

namespace Matcher

variable {m m' : Matcher} {t' : Trie}

/-- Matchers of the same words that report in the same mode find the same in every text. -/
theorem IsLinked.search_congr (h : m.IsLinked t.nodes) (hwords : t.Holds words)
    (h' : m'.IsLinked t'.nodes) (hothers : t'.Holds others) (hmode : m.mode = m'.mode)
    (hsame : wordSet words = wordSet others) (text : String) : m.search text = m'.search text := by
  rw [search, search, h.searchFrom_root hwords, h'.searchFrom_root hothers, hmode]
  simp only [endingIn_congr hsame]

/-- A text is found in itself exactly if it is a word. -/
theorem IsLinked.mem_search_self_iff (h : m.IsLinked t.nodes) (hwords : t.Holds words)
    (word : String) : word ∈ m.search word ↔ word ∈ wordSet words := by
  rw [search, h.searchFrom_root hwords, List.mem_flatMap, mem_wordSet]
  constructor
  · rintro ⟨k, -, hk⟩
    obtain ⟨hmem, hne, -⟩ := mem_endingIn.1 (report_subset _ _ hk)
    exact ⟨hne, hmem⟩
  · rintro ⟨hne, hmem⟩
    have hpos : 0 < word.toList.length := by
      rw [List.length_pos_iff_ne_nil, ne_eq, String.toList_eq_nil_iff]
      exact hne
    refine ⟨word.toList.length - 1, List.mem_range.2 (by omega), ?_⟩
    rw [Nat.sub_add_cancel hpos, List.take_length]
    obtain ⟨shorter, hshorter⟩ := exists_endingIn_eq_cons hne hmem
    rw [hshorter]
    cases m.mode <;> simp [report]

/-- Whatever the calls are that put words in, and in whatever order the edges are taken when the
links are set: the size of the matcher is the number of words; matchers of the same words agree in
their size, in whether they are empty, and in what they find in any text; and matchers that find the
same in every text have the same words. -/
theorem depends_on_wordSet (order order' : EdgeOrder)
    (horder : ∀ edges, (order edges).Perm edges) (horder' : ∀ edges, (order' edges).Perm edges)
    (calls calls' : List Addition) (mode : MatchMode) :
    let m := (Trie.build calls).freezeIn order mode
    let m' := (Trie.build calls').freezeIn order' mode
    let words := wordSet (calls.flatMap Addition.words)
    let words' := wordSet (calls'.flatMap Addition.words)
    m.size = words.card ∧ (m.isEmpty = true ↔ words = ∅) ∧
      (words = words' → m.size = m'.size ∧ m.isEmpty = m'.isEmpty ∧
        ∀ text, m.search text = m'.search text ∧ m.isMatch text = m'.isMatch text) ∧
      ((∀ text, m.search text = m'.search text) → words = words') := by
  intro m m' words words'
  have hwords := Trie.holds_ofWords (calls.flatMap Addition.words)
  have hwords' := Trie.holds_ofWords (calls'.flatMap Addition.words)
  rw [← Trie.build_eq_ofWords] at hwords hwords'
  have hm : m.IsLinked (Trie.build calls).nodes := isLinked_freezeIn horder hwords mode
  have hm' : m'.IsLinked (Trie.build calls').nodes := isLinked_freezeIn horder' hwords' mode
  have hsize : m.size = words.card := by
    rw [← Trie.size_ofWords, ← Trie.build_eq_ofWords]
    rfl
  have hsize' : m'.size = words'.card := by
    rw [← Trie.size_ofWords, ← Trie.build_eq_ofWords]
    rfl
  refine ⟨hsize, ?_, fun hsame => ?_, fun hsearch => ?_⟩
  · rw [isEmpty, beq_iff_eq, hsize, Finset.card_eq_zero]
  · have hsizes : m.size = m'.size := by rw [hsize, hsize', hsame]
    have hsearch (text : String) : m.search text = m'.search text :=
      hm.search_congr hwords hm' hwords' rfl hsame text
    refine ⟨hsizes, by rw [isEmpty, isEmpty, hsizes], fun text => ⟨hsearch text, ?_⟩⟩
    rw [Bool.eq_iff_iff, isMatch_iff_search_ne_nil, isMatch_iff_search_ne_nil, hsearch]
  · ext word
    rw [← hm.mem_search_self_iff hwords, ← hm'.mem_search_self_iff hwords', hsearch]

/-- Two ways of putting in the same two words. -/
theorem depends_on_wordSet_twice :
    let calls : List Addition := [.insert "she", .extend ["", "he"], .insert "she"]
    let calls' : List Addition := [.extend ["he", "he"], .insert "", .insert "she"]
    let m := (Trie.build calls).freezeIn List.reverse .firstPerPosition
    let m' := (Trie.build calls').freezeIn id .firstPerPosition
    (∀ edges : List (Char × Nat), edges.reverse.Perm edges) ∧
      wordSet (calls.flatMap Addition.words) = wordSet (calls'.flatMap Addition.words) ∧
      m.nodes ≠ m'.nodes ∧ m.size = 2 ∧ m'.size = 2 ∧
      ∀ text, m.search text = m'.search text ∧ m.isMatch text = m'.isMatch text := by
  intro calls calls' m m'
  have hsame :
      wordSet (calls.flatMap Addition.words) = wordSet (calls'.flatMap Addition.words) := by
    decide
  obtain ⟨hsize, -, hagree, -⟩ := depends_on_wordSet List.reverse id List.reverse_perm
    (fun _ => .refl _) calls calls' .firstPerPosition
  obtain ⟨hsizes, -, hsearch⟩ := hagree hsame
  have htwo : m.size = 2 := hsize.trans (by decide)
  exact ⟨List.reverse_perm, hsame, by decide +kernel, htwo, hsizes ▸ htwo, hsearch⟩

end Matcher

end ModerationGateway.Words
