import ModerationGateway.Proofs.Loop
import ModerationGateway.Proofs.Words.Paths
import ModerationGateway.Proofs.Words.Search

/-!
# Walks along links

Links are set and followed by loops that nothing bounds: a walk goes on until it finds an edge or a
word, or is at the root. Every link leads to a shorter text, so all these walks end, on every text,
and none of them ever names a node that is not there.

* `linkRound`, `stepRound`, `probeRound`, `matchRound`: the rounds of the four walks;
* `LinksEdges`, `Builds`: the links below a node, and all links, by a queue of nodes;
* `Searches`, `Decides`: a text is searched;
* `ends_linkRound`, `Matcher.IsLinked.ends_stepRound`, `Matcher.IsLinked.ends_probeRound`,
  `Matcher.IsLinked.ends_matchRound`: the walks end with what the matcher says;
* `builds_link`: so does the queue;
* `Matcher.IsSound`, `Matcher.isSound_freezeIn`: links, bounds and walks of a matcher.
-/

namespace ModerationGateway.Words

/-! ### Rounds -/

/-- A link is looked for: the edge is taken if there is one, else the walk follows the link. -/
def linkRound (nodes : Array Node) (c : Char) : Option Nat → Option (Loop.Round (Option Nat) Nat)
  | none => some (.done root)
  | some i => nodes[i]?.map fun n =>
    match n.child? c with
    | some j => .done j
    | none => .again n.fail

/-- A character is read at a node. -/
def stepRound (nodes : Array Node) (c : Char) (i : Nat) : Option (Loop.Round Nat Nat) :=
  nodes[i]?.map fun n =>
    match n.child? c with
    | some j => .done j
    | none =>
      match n.fail with
      | some j => .again j
      | none => .done root

/-- Words are collected on the way to the root, all of them or the first one. -/
def probeRound (m : Matcher) :
    Nat × List String → Option (Loop.Round (Nat × List String) (List String))
  | (i, found) =>
    if i = root then some (.done found)
    else m.nodes[i]?.map fun n =>
      match n.word with
      | none => .again (n.fail.getD root, found)
      | some w =>
        match m.mode with
        | .firstPerPosition => .done (found ++ [w])
        | .allPerPosition => .again (n.fail.getD root, found ++ [w])

/-- A word is looked for on the way to the root. -/
def matchRound (nodes : Array Node) (i : Nat) : Option (Loop.Round Nat Bool) :=
  if i = root then some (.done false)
  else nodes[i]?.map fun n => if n.word.isSome then .done true else .again (n.fail.getD root)

/-- The links of some children of a node are set, one after the other. -/
inductive LinksEdges (parent : Nat) : Array Node → List (Char × Nat) → Array Node → Prop where
  | nil (nodes : Array Node) : LinksEdges parent nodes [] nodes
  | cons {nodes nodes' : Array Node} {n : Node} {c : Char} {child target : Nat}
      {edges : List (Char × Nat)} (hn : nodes[parent]? = some n)
      (walk : Loop.Ends (linkRound nodes c) n.fail target) (hchild : child < nodes.size)
      (later : LinksEdges parent (nodes.modify child fun n => { n with fail := some target })
        edges nodes') :
      LinksEdges parent nodes ((c, child) :: edges) nodes'

/-- The nodes of a queue are visited: the links of their children are set, and the children wait
behind the others. -/
inductive Builds (order : EdgeOrder) : List Nat → Array Node → Array Node → Prop where
  | done (nodes : Array Node) : Builds order [] nodes nodes
  | visit {nodes nodes' nodes'' : Array Node} {i : Nat} {n : Node} {queue : List Nat}
      (hn : nodes[i]? = some n) (edges : LinksEdges i nodes (order n.edges) nodes')
      (later : Builds order (queue ++ (order n.edges).map (·.2)) nodes' nodes'') :
      Builds order (i :: queue) nodes nodes''

/-- A text is searched from a node, with the hits so far. -/
inductive Searches (m : Matcher) : Nat → List String → List Char → List String → Prop where
  | nil (i : Nat) (found : List String) : Searches m i found [] found
  | cons {i j : Nat} {c : Char} {cs : List Char} {found found' hits : List String}
      (step : Loop.Ends (stepRound m.nodes c) i j)
      (probe : Loop.Ends (probeRound m) (j, found) found')
      (later : Searches m j found' cs hits) : Searches m i found (c :: cs) hits

/-- A text is searched from a node for any word. -/
inductive Decides (m : Matcher) : Nat → List Char → Bool → Prop where
  | nil (i : Nat) : Decides m i [] false
  | found {i j : Nat} {c : Char} {cs : List Char} (step : Loop.Ends (stepRound m.nodes c) i j)
      (probe : Loop.Ends (matchRound m.nodes) j true) : Decides m i (c :: cs) true
  | next {i j : Nat} {c : Char} {cs : List Char} {answer : Bool}
      (step : Loop.Ends (stepRound m.nodes c) i j) (probe : Loop.Ends (matchRound m.nodes) j false)
      (later : Decides m j cs answer) : Decides m i (c :: cs) answer

/-! ### One result at most -/

variable {order : EdgeOrder} {m : Matcher}

theorem LinksEdges.unique {parent : Nat} {nodes nodes' nodes'' : Array Node}
    {edges : List (Char × Nat)} (h : LinksEdges parent nodes edges nodes')
    (h' : LinksEdges parent nodes edges nodes'') : nodes' = nodes'' := by
  induction h with
  | nil nodes => cases h'; rfl
  | cons hn walk _ _ ih =>
    cases h' with
    | cons hn' walk' _ later' =>
      cases hn.symm.trans hn'
      cases walk.unique walk'
      exact ih later'

theorem Builds.unique {queue : List Nat} {nodes nodes' nodes'' : Array Node}
    (h : Builds order queue nodes nodes') (h' : Builds order queue nodes nodes'') :
    nodes' = nodes'' := by
  induction h with
  | done nodes => cases h'; rfl
  | visit hn edges _ ih =>
    cases h' with
    | visit hn' edges' later' =>
      cases hn.symm.trans hn'
      cases edges.unique edges'
      exact ih later'

theorem Searches.unique {i : Nat} {found hits hits' : List String} {cs : List Char}
    (h : Searches m i found cs hits) (h' : Searches m i found cs hits') : hits = hits' := by
  induction h with
  | nil i found => cases h'; rfl
  | cons step probe _ ih =>
    cases h' with
    | cons step' probe' later' =>
      cases step.unique step'
      cases probe.unique probe'
      exact ih later'

theorem Decides.unique {i : Nat} {cs : List Char} {answer answer' : Bool}
    (h : Decides m i cs answer) (h' : Decides m i cs answer') : answer = answer' := by
  induction h with
  | nil i => cases h'; rfl
  | found step probe =>
    cases h' with
    | found => rfl
    | next step' probe' =>
      cases step.unique step'
      cases probe.unique probe'
  | next step probe _ ih =>
    cases h' with
    | found step' probe' =>
      cases step.unique step'
      cases probe.unique probe'
    | next step' probe' later' =>
      cases step.unique step'
      exact ih later'

/-! ### Walks end -/

variable {base nodes : Array Node} {i : Nat} {c : Char} {cs : List Char}

theorem getElem?_of_lt (h : i < nodes.size) : nodes[i]? = some (nodeAt nodes i) := by
  rw [nodeAt, Array.getElem?_eq_getElem h, Option.getD_some]

/-- The node of a text is there. -/
theorem Relinked.getElem?_eq (h : Relinked base nodes) (htree : IsTree base)
    (hcs : locate base cs = some i) : nodes[i]? = some (nodeAt nodes i) :=
  getElem?_of_lt (h.size ▸ htree.locate_lt hcs)

/-- A walk from the link of a text ends if those from the nodes of shorter texts do. -/
theorem ends_linkTarget {fuel : Nat}
    (hshorter : ∀ ds j, ds.length < cs.length → locate base ds = some j →
      Loop.Ends (linkRound nodes c) (some j) (follow nodes c fuel (some j))) :
    Loop.Ends (linkRound nodes c) (linkTarget base cs)
      (follow nodes c fuel (linkTarget base cs)) := by
  cases cs with
  | nil => exact .done (by rw [linkTarget, follow_none]; rfl)
  | cons a as =>
    obtain ⟨f, hf⟩ := exists_locate_longestSuffix base as
    rw [linkTarget, hf]
    exact hshorter _ f (Nat.lt_succ_of_le (longestSuffix_suffix _ as).length_le) hf

/-- A walk from the node of a text ends, since each link leads to a shorter text. -/
theorem ends_linkRound (htree : IsTree base) (hnodes : Relinked base nodes)
    (hcs : locate base cs = some i) (hlinked : LinkedUpTo base nodes cs.length) {fuel : Nat}
    (hfuel : cs.length < fuel) :
    Loop.Ends (linkRound nodes c) (some i) (follow nodes c fuel (some i)) := by
  induction fuel generalizing cs i with
  | zero => exact absurd hfuel (Nat.not_lt_zero _)
  | succ fuel ih =>
    have hnode := hnodes.getElem?_eq htree hcs
    rw [follow]
    cases hchild : (nodeAt nodes i).child? c with
    | some j => exact .done (by rw [linkRound, hnode, Option.map_some, hchild])
    | none =>
      have hround : linkRound nodes c (some i) = some (.again (nodeAt nodes i).fail) := by
        rw [linkRound, hnode, Option.map_some, hchild]
      refine .again hround ?_
      rw [hlinked cs (Nat.le_refl _) i hcs]
      refine ends_linkTarget fun ds j hlt hds => ?_
      exact ih hds (fun es hes => hlinked es (by omega)) (by omega)

/-- Reading a character is the walk that begins at the node itself. -/
theorem ends_stepRound_of_linkRound {start : Option Nat} {j : Nat}
    (h : Loop.Ends (linkRound nodes c) start j) (hstart : start = some i) :
    Loop.Ends (stepRound nodes c) i j := by
  induction h generalizing i with
  | done now =>
    subst hstart
    obtain ⟨n, hn, hround⟩ := Option.map_eq_some_iff.1 now
    refine .done ?_
    rw [stepRound, hn, Option.map_some]
    cases hchild : n.child? c with
    | some k => simpa [hchild] using hround
    | none => simp [hchild] at hround
  | @again s s' r now later ih =>
    subst hstart
    obtain ⟨n, hn, hround⟩ := Option.map_eq_some_iff.1 now
    cases hchild : n.child? c with
    | some k => simp [hchild] at hround
    | none =>
      obtain rfl : n.fail = s' := by simpa [hchild] using hround
      cases hfail : n.fail with
      | some f =>
        have hstep : stepRound nodes c i = some (.again f) := by
          rw [stepRound, hn, Option.map_some, hchild, hfail]
        exact .again hstep (ih hfail)
      | none =>
        rw [hfail] at later
        have hroot : Loop.Ends (linkRound nodes c) none root := .done rfl
        cases later.unique hroot
        exact .done (by rw [stepRound, hn, Option.map_some, hchild, hfail])

namespace Matcher

variable {fuel : Nat}

/-- Reading a character at the node of a text ends at the node that the matcher says. -/
theorem IsLinked.ends_stepRound (h : m.IsLinked base) (hcs : locate base cs = some i) (c : Char) :
    Loop.Ends (stepRound m.nodes c) i (m.step i c) := by
  refine ends_stepRound_of_linkRound (ends_linkRound h.tree h.relinked hcs ?_ ?_) rfl
  · exact fun ds _ => h.linked ds
  · exact h.relinked.size ▸ h.tree.length_lt hcs

/-- The link of the node of a text leads to the longest suffix behind its first character. -/
theorem IsLinked.exists_fail (h : m.IsLinked base) {a : Char} {as : List Char}
    (hcs : locate base (a :: as) = some i) :
    ∃ f, (nodeAt m.nodes i).fail = some f ∧
      locate base (longestSuffix (isPath base) as) = some f := by
  obtain ⟨f, hf⟩ := exists_locate_longestSuffix base as
  exact ⟨f, by rw [h.linked (a :: as) i hcs, linkTarget, hf], hf⟩

theorem IsLinked.ne_root (h : m.IsLinked base) {a : Char} {as : List Char}
    (hcs : locate base (a :: as) = some i) : i ≠ root := by
  rintro rfl
  cases h.tree.eq_nil_of_locate_root hcs

/-- A walk that collects words ends, and has collected those that are to be reported. -/
theorem IsLinked.ends_probeRound (h : m.IsLinked base) (hcs : locate base cs = some i)
    (hfuel : cs.length < fuel) (found : List String) :
    Loop.Ends (probeRound m) (i, found) (found ++ report m.mode (m.wordsFrom fuel i)) := by
  induction fuel generalizing cs i found with
  | zero => exact absurd hfuel (Nat.not_lt_zero _)
  | succ fuel ih =>
    have hnode := h.relinked.getElem?_eq h.tree hcs
    rw [wordsFrom]
    cases cs with
    | nil =>
      cases hcs
      have hnone : found ++ report m.mode [] = found := by cases m.mode <;> simp [report]
      rw [if_pos rfl, hnone]
      exact .done (by rw [probeRound, if_pos rfl])
    | cons a as =>
      have hne := h.ne_root hcs
      obtain ⟨f, hfail, hf⟩ := h.exists_fail hcs
      have hle := (longestSuffix_suffix (isPath base) as).length_le
      rw [List.length_cons] at hfuel
      have hrest := ih hf (by omega)
      rw [if_neg hne, hfail, Option.getD_some]
      cases hword : (nodeAt m.nodes i).word with
      | none =>
        have hround : probeRound m (i, found) = some (.again (f, found)) := by
          simp [probeRound, hne, hnode, hword, hfail]
        exact .again hround (hrest found)
      | some w =>
        cases hmode : m.mode with
        | firstPerPosition =>
          exact .done (by simp [probeRound, hne, hnode, hword, hmode, report])
        | allPerPosition =>
          have hround : probeRound m (i, found) = some (.again (f, found ++ [w])) := by
            simp [probeRound, hne, hnode, hword, hfail, hmode]
          have hmore := hrest (found ++ [w])
          rw [hmode, List.append_assoc] at hmore
          exact .again hround hmore

/-- A walk that looks for a word ends. -/
theorem IsLinked.ends_matchRound (h : m.IsLinked base) (hcs : locate base cs = some i)
    (hfuel : cs.length < fuel) :
    Loop.Ends (matchRound m.nodes) i (m.hasWordFrom fuel i) := by
  induction fuel generalizing cs i with
  | zero => exact absurd hfuel (Nat.not_lt_zero _)
  | succ fuel ih =>
    have hnode := h.relinked.getElem?_eq h.tree hcs
    rw [hasWordFrom]
    cases cs with
    | nil =>
      cases hcs
      exact .done (by rw [matchRound, if_pos rfl, if_pos rfl])
    | cons a as =>
      have hne := h.ne_root hcs
      obtain ⟨f, hfail, hf⟩ := h.exists_fail hcs
      have hle := (longestSuffix_suffix (isPath base) as).length_le
      rw [List.length_cons] at hfuel
      have hrest := ih hf (by omega)
      rw [if_neg hne, hfail, Option.getD_some]
      cases hword : (nodeAt m.nodes i).word with
      | none =>
        have hround : matchRound m.nodes i = some (.again f) := by
          simp [matchRound, hne, hnode, hword, hfail]
        exact .again hround hrest
      | some w => exact .done (by simp [matchRound, hne, hnode, hword])

theorem hitsAt_eq_report (m : Matcher) (i : Nat) :
    m.hitsAt i = report m.mode (m.wordsFrom m.nodes.size i) := by
  unfold hitsAt
  cases m.mode <;> rfl

/-- A search from the node of a text ends with the hits of the matcher. -/
theorem IsLinked.searches (h : m.IsLinked base) (hcs : locate base cs = some i)
    (found : List String) (ds : List Char) :
    Searches m i found ds (found ++ m.searchFrom i ds) := by
  induction ds generalizing cs i found with
  | nil =>
    rw [searchFrom_nil, List.append_nil]
    exact .nil i found
  | cons d ds ih =>
    have hnext := h.step_spec hcs d
    have hprobe := h.ends_probeRound hnext (h.relinked.size ▸ h.tree.length_lt hnext) found
    rw [← hitsAt_eq_report] at hprobe
    rw [searchFrom_cons, ← List.append_assoc]
    exact .cons (h.ends_stepRound hcs d) hprobe (ih hnext _)

theorem IsLinked.decides (h : m.IsLinked base) (hcs : locate base cs = some i)
    (ds : List Char) : Decides m i ds (m.isMatchFrom i ds) := by
  induction ds generalizing cs i with
  | nil => exact .nil i
  | cons d ds ih =>
    have hnext := h.step_spec hcs d
    have hprobe := h.ends_matchRound hnext (h.relinked.size ▸ h.tree.length_lt hnext)
    rw [isMatchFrom]
    cases hword : m.hasWordFrom m.nodes.size (m.step i d) with
    | true => exact .found (h.ends_stepRound hcs d) (hword ▸ hprobe)
    | false => exact .next (h.ends_stepRound hcs d) (hword ▸ hprobe) (ih hnext)

end Matcher

/-! ### The queue -/

/-- The links of some children are set by walks that end. -/
theorem linksEdges_foldl (htree : IsTree base) (hnodes : Relinked base nodes)
    (hcs : locate base cs = some i) (hlinked : LinkedUpTo base nodes cs.length)
    {edges : List (Char × Nat)} (hedges : ∀ c j, (c, j) ∈ edges →
      (nodeAt base i).child? c = some j) :
    LinksEdges i nodes edges (edges.foldl (linkChild i) nodes) := by
  induction edges generalizing nodes with
  | nil => exact .nil nodes
  | cons edge edges ih =>
    obtain ⟨c, j⟩ := edge
    have hchild := hedges c j List.mem_cons_self
    have hlt : j < nodes.size := hnodes.size ▸ (htree.lt_of_child? hchild).2
    have hwalk : Loop.Ends (linkRound nodes c) (nodeAt nodes i).fail
        (follow nodes c nodes.size (nodeAt nodes i).fail) := by
      rw [hlinked cs (Nat.le_refl _) i hcs]
      refine ends_linkTarget fun ds j _ hds => ?_
      exact ends_linkRound htree hnodes hds (fun es hes => hlinked es (by omega))
        (hnodes.size ▸ htree.length_lt hds)
    obtain ⟨hfirst, -⟩ := linkChild_spec htree hnodes hcs hlinked hchild
    exact .cons (hnodes.getElem?_eq htree hcs) hwalk hlt
      (ih hfirst.relinked (hlinked.advances hfirst)
        fun d k h => hedges d k (List.mem_cons_of_mem _ h))

/-- While the nodes of a level are visited, their children gather behind what waits already. -/
theorem builds_level (horder : ∀ edges, (order edges).Perm edges) (htree : IsTree base)
    (hnodes : Relinked base nodes) {n : Nat} (hlinked : LinkedUpTo base nodes n)
    {level waiting : List Nat}
    (hlevel : ∀ i ∈ level, ∃ cs, cs.length = n ∧ locate base cs = some i) {result : Array Node}
    (later : Builds order (waiting ++ nextLevel order nodes level)
      (level.foldl (linkChildren order) nodes) result) :
    Builds order (level ++ waiting) nodes result := by
  induction level generalizing nodes waiting with
  | nil => simpa [nextLevel] using later
  | cons k level ih =>
    obtain ⟨ds, rfl, hds⟩ := hlevel k List.mem_cons_self
    obtain ⟨hfirst, -⟩ := linkChildren_spec horder htree hnodes hds hlinked
    have hedges : LinksEdges k nodes (order (nodeAt nodes k).edges)
        (linkChildren order nodes k) := by
      refine linksEdges_foldl htree hnodes hds hlinked fun c j h => ?_
      rwa [(horder _).mem_iff, hnodes.edges, ← child?_eq_some_iff (htree.chars k)] at h
    have hsame : nextLevel order (linkChildren order nodes k) level =
        nextLevel order nodes level := by
      simp only [nextLevel, hfirst.relinked.edges, hnodes.edges]
    rw [List.cons_append]
    refine .visit (hnodes.getElem?_eq htree hds) hedges ?_
    rw [List.append_assoc]
    refine ih hfirst.relinked (hlinked.advances hfirst)
      (fun i hi => hlevel i (List.mem_cons_of_mem _ hi)) ?_
    rw [hsame, List.append_assoc]
    exact later

/-- Level by level the queue does what the levels do, and it runs empty. -/
theorem builds_linkLevels (horder : ∀ edges, (order edges).Perm edges) (htree : IsTree base)
    (hnodes : Relinked base nodes) {n : Nat} (hlinked : LinkedUpTo base nodes n)
    {level : List Nat} (hlevel : IsLevel base n level) {fuel : Nat} (hfuel : base.size ≤ n + fuel) :
    Builds order level nodes (linkLevels order fuel level nodes) := by
  induction fuel generalizing nodes n level with
  | zero =>
    have hempty : level = [] := by
      rw [List.eq_nil_iff_forall_not_mem]
      intro i hi
      obtain ⟨cs, hlength, hcs⟩ := (hlevel i).1 hi
      have hlt := htree.length_lt hcs
      omega
    rw [hempty]
    exact .done nodes
  | succ fuel ih =>
    rw [linkLevels]
    split
    next hempty =>
      rw [List.isEmpty_iff.1 hempty]
      exact .done nodes
    · obtain ⟨hnodes', hlinked'⟩ := linkLevel_spec horder htree hnodes hlinked hlevel
      have hrest : Builds order ([] ++ nextLevel order nodes level) _ _ :=
        ih hnodes' hlinked' (isLevel_nextLevel horder htree hnodes hlevel) (by omega)
      have hvisits := builds_level horder htree hnodes hlinked (fun i hi => (hlevel i).1 hi) hrest
      rwa [List.append_nil] at hvisits

/-- The queue that begins with the root runs empty, and sets all links. -/
theorem builds_link (horder : ∀ edges, (order edges).Perm edges) (htree : IsTree base)
    (hroot : (nodeAt base root).fail = none) : Builds order [root] base (link order base) :=
  builds_linkLevels horder htree (.refl base) (linkedUpTo_zero hroot) (isLevel_root base)
    (Nat.le_of_eq (Nat.zero_add _).symm)

/-! ### Links, bounds and walks -/

namespace Matcher

/-- The automaton of some words: where its links lead, and that its loops end. -/
structure IsSound (order : EdgeOrder) (words : List String) (m : Matcher) : Prop where
  /-- Every node stands for one text. -/
  spells : ∀ i < m.nodes.size, ∃! cs, locate m.nodes cs = some i
  path : ∀ cs, isPath m.nodes cs = true ↔ cs = [] ∨ ∃ w ∈ words, cs <+: w.toList
  /-- Edges and links lead to nodes that are there. -/
  bounds : ∀ i c j, (nodeAt m.nodes i).child? c = some j ∨ (nodeAt m.nodes i).fail = some j →
    j < m.nodes.size
  root_fail : (nodeAt m.nodes root).fail = none
  /-- The link of any other node leads to the longest proper suffix of its text that is a path. -/
  link : ∀ i c cs, locate m.nodes (c :: cs) = some i →
    ∃ j ds, (nodeAt m.nodes i).fail = some j ∧ locate m.nodes ds = some j ∧
      IsLongestSuffix (isPath m.nodes) cs ds
  /-- Links lead to shorter texts. -/
  shorter : ∀ i j cs ds, (nodeAt m.nodes i).fail = some j → locate m.nodes cs = some i →
    locate m.nodes ds = some j → ds.length < cs.length
  /-- The queue runs empty and leaves these links, as do the walks for each of them. -/
  builds : ∀ nodes, Builds order [root] (Trie.ofWords words).nodes nodes ↔ nodes = m.nodes
  steps : ∀ i < m.nodes.size, ∀ c j, Loop.Ends (stepRound m.nodes c) i j ↔ j = m.step i c
  searches : ∀ text hits, Searches m root [] text.toList hits ↔ hits = m.search text
  decides : ∀ text answer, Decides m root text.toList answer ↔ answer = m.isMatch text
  /-- After a text the automaton is at the longest suffix of it that is a path. -/
  state : ∀ text, ∃ cs, locate m.nodes cs = some (m.state text) ∧
    IsLongestSuffix (isPath m.nodes) text cs

theorem IsLinked.isPath_eq (h : m.IsLinked base) : isPath m.nodes = isPath base := by
  funext cs
  rw [isPath, isPath, h.relinked.locate]

/-- A link leads to a node that is there. -/
theorem IsLinked.fail_lt (h : m.IsLinked base) (hcs : locate base cs = some i) {j : Nat}
    (hfail : (nodeAt m.nodes i).fail = some j) :
    ∃ ds, locate base ds = some j ∧ ds.length < cs.length := by
  cases cs with
  | nil =>
    rw [h.linked [] i hcs] at hfail
    cases hfail
  | cons a as =>
    obtain ⟨f, hf, hds⟩ := h.exists_fail hcs
    obtain rfl := Option.some.inj (hf.symm.trans hfail)
    exact ⟨_, hds, Nat.lt_succ_of_le (longestSuffix_suffix _ as).length_le⟩

/-- The automaton of some words is sound, whatever the order of the edges is. -/
theorem isSound_freezeIn (order : EdgeOrder) (horder : ∀ edges, (order edges).Perm edges)
    (words : List String) (mode : MatchMode) :
    IsSound order words ((Trie.ofWords words).freezeIn order mode) := by
  have hwords := Trie.holds_ofWords words
  have hspanned := (Trie.spans_ofWords words).spanned
  have h := isLinked_freezeIn horder hwords mode
  have hroot : (nodeAt (Trie.ofWords words).nodes root).fail = none := hwords.fail root
  generalize hm : (Trie.ofWords words).freezeIn order mode = m at h ⊢
  constructor
  case spells =>
    intro i hi
    obtain ⟨cs, hcs⟩ := hspanned i (h.relinked.size ▸ hi)
    simp only [h.relinked.locate]
    exact ⟨cs, hcs, fun ds hds => h.tree.locate_inj hds hcs⟩
  case path =>
    intro cs
    rw [h.isPath_eq, Trie.isPath_ofWords_iff]
  case bounds =>
    rintro i c j (hchild | hfail)
    · rw [h.relinked.child?] at hchild
      exact h.relinked.size ▸ (h.tree.lt_of_child? hchild).2
    · have hi : i < m.nodes.size := by
        by_contra hge
        rw [nodeAt_of_size_le (Nat.le_of_not_lt hge)] at hfail
        cases hfail
      obtain ⟨cs, hcs⟩ := hspanned i (h.relinked.size ▸ hi)
      obtain ⟨ds, hds, -⟩ := h.fail_lt hcs hfail
      exact h.relinked.size ▸ h.tree.locate_lt hds
  case root_fail => exact h.linked [] root rfl
  case link =>
    intro i c cs hcs
    rw [h.relinked.locate] at hcs
    obtain ⟨f, hfail, hf⟩ := h.exists_fail hcs
    rw [h.isPath_eq]
    exact ⟨f, _, hfail, (h.relinked.locate _).trans hf,
      isLongestSuffix_longestSuffix (isPath_nil _) cs⟩
  case shorter =>
    intro i j cs ds hfail hcs hds
    rw [h.relinked.locate] at hcs hds
    obtain ⟨es, hes, hlt⟩ := h.fail_lt hcs hfail
    rwa [h.tree.locate_inj hds hes]
  case builds =>
    intro nodes
    have hbuilds := builds_link horder hwords.tree hroot
    have hnodes : link order (Trie.ofWords words).nodes = m.nodes := by rw [← hm]; rfl
    rw [hnodes] at hbuilds
    exact ⟨fun hother => hother.unique hbuilds, fun heq => heq ▸ hbuilds⟩
  case steps =>
    intro i hi c j
    obtain ⟨cs, hcs⟩ := hspanned i (h.relinked.size ▸ hi)
    exact (h.ends_stepRound hcs c).iff
  case searches =>
    intro text hits
    have hsearches := h.searches (locate_nil _) [] text.toList
    rw [List.nil_append] at hsearches
    exact ⟨fun hother => hother.unique hsearches, fun heq => heq ▸ hsearches⟩
  case decides =>
    intro text answer
    have hdecides := h.decides (locate_nil _) text.toList
    exact ⟨fun hother => hother.unique hdecides, fun heq => heq ▸ hdecides⟩
  case state =>
    intro text
    rw [h.isPath_eq]
    exact ⟨_, (h.relinked.locate _).trans (h.state_spec text),
      isLongestSuffix_longestSuffix (isPath_nil _) text⟩

/-- With the edges taken in reverse order: behind `she` the automaton goes on with `he`, and a text
that leads away from `hers` is searched from the root. -/
theorem isSound_freezeIn_reverse :
    let m := (Trie.ofWords ["he", "she", "", "hers", "his", "she"]).freezeIn List.reverse
      .allPerPosition
    (∀ edges : List (Char × Nat), edges.reverse.Perm edges) ∧
      IsSound List.reverse ["he", "she", "", "hers", "his", "she"] m ∧
      (∃ i j, locate m.nodes "she".toList = some i ∧ locate m.nodes "he".toList = some j ∧
        (nodeAt m.nodes i).fail = some j) ∧
      Searches m root [] "usherx".toList ["she", "he"] := by
  intro m
  have hsound : IsSound List.reverse ["he", "she", "", "hers", "his", "she"] m :=
    isSound_freezeIn List.reverse List.reverse_perm _ .allPerPosition
  refine ⟨List.reverse_perm, hsound, ⟨5, 2, ?_⟩, (hsound.searches "usherx" _).2 ?_⟩
  · decide +kernel
  · decide +kernel

end Matcher

end ModerationGateway.Words
