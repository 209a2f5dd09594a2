import ModerationGateway.Proofs.Words.Search

/-!
# Searching several texts at once

Texts that are put one below the other are searched as each would be by itself, if no word holds a
line feed: a character that is in no word takes the automaton back to where it began. The scan that
only asks whether there is a hit says of them what it says of each.

* `endingIn_append_cons`: what stands in front of such a character is in no word;
* `exists_endingIn_iff`: some word ends somewhere in a text exactly if it occurs;
* `Matcher.IsLinked.search_intercalate`: the hits of the whole are those of the texts, in order;
* `Matcher.IsLinked.search_eq_nil_iff`: there is no hit exactly if no word occurs;
* `Matcher.search_isMatch_intercalate`, `Matcher.isMatch_iff_search_iff_occurs`: what the two scans
  say of texts one below the other, and of one text.
-/

namespace ModerationGateway.Words

variable {words : List String} {cs ds : List Char} {c : Char}

@[simp] theorem endingIn_nil (words : List String) : endingIn words [] = [] := by
  simp [endingIn]

/-- No word holds a character that is in none of them. -/
theorem endingIn_cons_of_mem (hwords : ∀ w ∈ words, c ∉ w.toList) {b : Char} (hc : c ∈ b :: ds) :
    endingIn words (b :: ds) = endingIn words ds := by
  have hword : String.ofList (b :: ds) ∉ words := by
    intro hmem
    have hfree := hwords _ hmem
    rw [String.toList_ofList] at hfree
    exact hfree hc
  rw [endingIn, List.tails_cons, List.map_cons,
    List.filter_cons_of_neg fun hkept => hword (of_decide_eq_true hkept).2]
  rfl

/-- What stands in front of a character that is in no word plays no part behind it. -/
theorem endingIn_append_cons (hwords : ∀ w ∈ words, c ∉ w.toList) (cs ds : List Char) :
    endingIn words (cs ++ c :: ds) = endingIn words ds := by
  induction cs with
  | nil => exact endingIn_cons_of_mem hwords List.mem_cons_self
  | cons b cs ih =>
    rw [List.cons_append, endingIn_cons_of_mem hwords (by simp), ih]

theorem report_eq_nil_iff {mode : MatchMode} {hits : List String} :
    report mode hits = [] ↔ hits = [] := by
  cases mode <;> cases hits <;> simp [report]

/-- Some word that is not empty ends in one of the beginnings of a text exactly if it occurs. -/
theorem exists_endingIn_iff :
    (∃ k < cs.length, endingIn words (cs.take (k + 1)) ≠ []) ↔
      ∃ w ∈ words, w ≠ "" ∧ w.toList <:+: cs := by
  constructor
  · rintro ⟨k, -, hne⟩
    obtain ⟨w, hw⟩ := List.exists_mem_of_ne_nil _ hne
    obtain ⟨hmem, hempty, hsuffix⟩ := mem_endingIn.1 hw
    exact ⟨w, hmem, hempty, hsuffix.isInfix.trans (List.take_prefix _ _).isInfix⟩
  · rintro ⟨w, hmem, hempty, hinfix⟩
    obtain ⟨t, hsuffix, hprefix⟩ := List.infix_iff_suffix_prefix.1 hinfix
    have hpos : 0 < w.toList.length := by
      rw [List.length_pos_iff_ne_nil, ne_eq, String.toList_eq_nil_iff]
      exact hempty
    have hle := hsuffix.length_le
    have hbound := hprefix.length_le
    refine ⟨t.length - 1, by omega, List.ne_nil_of_mem (mem_endingIn.2 ⟨hmem, hempty, ?_⟩)⟩
    rw [Nat.sub_add_cancel (by omega), ← List.prefix_iff_eq_take.1 hprefix]
    exact hsuffix

namespace Matcher

variable {m : Matcher} {t : Trie}

theorem IsLinked.searchFrom_root (h : m.IsLinked t.nodes) (hwords : t.Holds words)
    (cs : List Char) :
    m.searchFrom root cs = (List.range cs.length).flatMap fun k =>
      report m.mode (endingIn words (cs.take (k + 1))) :=
  h.searchFrom_spec hwords (h.state_spec []) cs

/-- A character that is in no word ends the search of what stands before it and begins another. -/
theorem IsLinked.searchFrom_append_cons (h : m.IsLinked t.nodes) (hwords : t.Holds words)
    (hc : ∀ w ∈ words, c ∉ w.toList) (cs ds : List Char) :
    m.searchFrom root (cs ++ c :: ds) = m.searchFrom root cs ++ m.searchFrom root ds := by
  have hrest : m.searchFrom (m.state cs) (c :: ds) = m.searchFrom root ds := by
    have hempty : report m.mode [] = [] := report_eq_nil_iff.2 rfl
    rw [h.searchFrom_spec hwords (h.state_spec cs), h.searchFrom_root hwords, List.length_cons,
      List.range_succ_eq_map, List.flatMap_cons, List.flatMap_map]
    simp [endingIn_append_cons hc, hempty]
  rw [searchFrom_append, ← hrest]
  rfl

theorem isLinked_ofWords (words : List String) (mode : MatchMode) :
    (ofWords words mode).IsLinked (Trie.ofWords words).nodes :=
  isLinked_freezeIn (fun _ => .refl _) (Trie.holds_ofWords words) mode

/-- The hits in texts one below the other are those in the first, then those in the second, and so
on, if no word holds a line feed. -/
theorem IsLinked.search_intercalate (h : m.IsLinked t.nodes) (hwords : t.Holds words)
    (hlines : ∀ w ∈ words, '\n' ∉ w.toList) (parts : List String) :
    m.search ("\n".intercalate parts) = parts.flatMap m.search := by
  induction parts with
  | nil => simp [search]
  | cons part parts ih =>
    cases parts with
    | nil => simp
    | cons next parts =>
      have htext : ("\n".intercalate (part :: next :: parts)).toList =
          part.toList ++ '\n' :: ("\n".intercalate (next :: parts)).toList := by
        rw [String.intercalate_cons_cons, String.toList_append, String.toList_append,
          List.append_assoc]
        rfl
      rw [search, htext, h.searchFrom_append_cons hwords hlines, List.flatMap_cons, ← ih]
      rfl

theorem search_intercalate (hwords : ∀ w ∈ words, '\n' ∉ w.toList) (mode : MatchMode)
    (parts : List String) :
    (ofWords words mode).search ("\n".intercalate parts) =
      parts.flatMap (ofWords words mode).search :=
  (isLinked_ofWords words mode).search_intercalate (Trie.holds_ofWords words) hwords parts

/-- There is no hit exactly if no word occurs, the empty one left out. -/
theorem IsLinked.search_eq_nil_iff (h : m.IsLinked t.nodes) (hwords : t.Holds words)
    {text : String} :
    m.search text = [] ↔ ¬∃ w ∈ words, w ≠ "" ∧ w.toList <:+: text.toList := by
  rw [← exists_endingIn_iff, search, h.searchFrom_root hwords]
  simp [report_eq_nil_iff]

theorem search_eq_nil_iff {mode : MatchMode} {text : String} :
    (ofWords words mode).search text = [] ↔
      ¬∃ w ∈ words, w ≠ "" ∧ w.toList <:+: text.toList :=
  (isLinked_ofWords words mode).search_eq_nil_iff (Trie.holds_ofWords words)

/-! ### Both scans, in any order of the edges -/

/-- Texts one below the other are searched as each is by itself, if no word holds a line feed: the
hits are those of the first text, then those of the second, and so on, and there is one exactly if
there is one in some text. -/
theorem search_isMatch_intercalate (order : EdgeOrder) (horder : ∀ edges, (order edges).Perm edges)
    (words : List String) (hwords : ∀ w ∈ words, '\n' ∉ w.toList) (mode : MatchMode)
    (texts : List String) :
    let m := (Trie.ofWords words).freezeIn order mode
    m.search ("\n".intercalate texts) = texts.flatMap m.search ∧
      (m.isMatch ("\n".intercalate texts) = true ↔ ∃ text ∈ texts, m.isMatch text = true) := by
  intro m
  have hholds := Trie.holds_ofWords words
  have hsearch : m.search ("\n".intercalate texts) = texts.flatMap m.search :=
    (isLinked_freezeIn horder hholds mode).search_intercalate hholds hwords texts
  refine ⟨hsearch, ?_⟩
  simp only [isMatch_iff_search_ne_nil, hsearch, ne_eq, List.flatMap_eq_nil_iff, not_forall,
    exists_prop]

theorem search_isMatch_intercalate_apart :
    (∀ edges : List (Char × Nat), edges.reverse.Perm edges) ∧
      (∀ w ∈ ["ab", "bc", "abc", ""], '\n' ∉ w.toList) ∧
      let m := (Trie.ofWords ["ab", "bc", "abc", ""]).freezeIn List.reverse .allPerPosition
      m.search ("\n".intercalate ["xa", "bc", "", "ab"]) = ["bc", "ab"] ∧
        m.isMatch ("\n".intercalate ["xa", "bc", "", "ab"]) = true := by
  have hwords : ∀ w ∈ ["ab", "bc", "abc", ""], '\n' ∉ w.toList := by decide
  have h := search_isMatch_intercalate List.reverse List.reverse_perm _ hwords .allPerPosition
    ["xa", "bc", "", "ab"]
  refine ⟨List.reverse_perm, hwords, ?_⟩
  dsimp only at h ⊢
  rw [h.1, h.2]
  decide +kernel

/-- A text matches exactly if a search of it reports something, and this exactly if some word that is
not empty occurs in it. -/
theorem isMatch_iff_search_iff_occurs (order : EdgeOrder)
    (horder : ∀ edges, (order edges).Perm edges) (words : List String) (mode : MatchMode)
    (text : String) :
    let m := (Trie.ofWords words).freezeIn order mode
    (m.isMatch text = true ↔ m.search text ≠ []) ∧
      (m.search text ≠ [] ↔ ∃ w ∈ words, w ≠ "" ∧ w.toList <:+: text.toList) := by
  intro m
  have hholds := Trie.holds_ofWords words
  have hnil : m.search text = [] ↔ ¬∃ w ∈ words, w ≠ "" ∧ w.toList <:+: text.toList :=
    (isLinked_freezeIn horder hholds mode).search_eq_nil_iff hholds
  exact ⟨m.isMatch_iff_search_ne_nil text, not_iff_comm.1 hnil.symm⟩

theorem isMatch_iff_search_iff_occurs_inside :
    (∀ edges : List (Char × Nat), edges.reverse.Perm edges) ∧
      let m := (Trie.ofWords ["", "hers", "he"]).freezeIn List.reverse .firstPerPosition
      m.isMatch "usher" = true ∧ m.search "usher" ≠ [] ∧ m.isMatch "hush" = false := by
  have h := isMatch_iff_search_iff_occurs List.reverse List.reverse_perm ["", "hers", "he"]
    .firstPerPosition
  have hoccurs : ∃ w ∈ ["", "hers", "he"], w ≠ "" ∧ w.toList <:+: "usher".toList := by decide
  have hnone : ¬∃ w ∈ ["", "hers", "he"], w ≠ "" ∧ w.toList <:+: "hush".toList := by decide
  refine ⟨List.reverse_perm, (h _).1.2 ((h _).2.2 hoccurs), (h _).2.2 hoccurs, ?_⟩
  exact Bool.eq_false_iff.2 fun hmatch => hnone ((h _).2.1 ((h _).1.1 hmatch))

end Matcher

end ModerationGateway.Words
