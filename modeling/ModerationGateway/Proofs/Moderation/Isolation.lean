import ModerationGateway.Moderation.Gate
import ModerationGateway.Proofs.Breaker.Registry

/-!
# Rules that share no breaker

The breaker of a rule's gate is found by the name of the vendor and the identity of the rule, with a
colon between. Two rules with different keys have different breakers, and whatever goes on through
the gates of one of them is nothing to the breaker of the other. Different pairs can have the same
key, if there is a colon in the name of a vendor, and the two rules then share a breaker or take it
from each other.

* `Extends`, `breakerKey_eq_iff`: the pairs with the same key;
* `Gates`, `Gates.Act`, `Gates.step`, `Gates.run`: the gates that rules got so far, and what goes on
  through them;
* `step_cases`, `isSeparate_run`: whose breaker an act can change, and that no breaker has two keys;
* `find?_run`: acts through other gates leave the breaker of a key alone;
* `isolated_breakers`, `breaker_eq_iff`: rules with different keys, and rules with the same one.
-/

namespace ModerationGateway.Moderation

open ModerationGateway.Breaker

/-! ### Keys -/

theorem toList_breakerKey (vendor ruleId : String) :
    (Gate.breakerKey vendor ruleId).toList = vendor.toList ++ ':' :: ruleId.toList := by
  simp [Gate.breakerKey]

/-- What stands around two separators: they are the same one, or one is the later of the two. -/
theorem append_cons_eq_append_cons {α : Type} {a : α} {xs xs' ys ys' : List α} :
    xs ++ a :: ys = xs' ++ a :: ys' ↔ xs = xs' ∧ ys = ys' ∨
      (∃ zs, xs' = xs ++ a :: zs ∧ ys = zs ++ a :: ys') ∨
        ∃ zs, xs = xs' ++ a :: zs ∧ ys' = zs ++ a :: ys := by
  constructor
  · intro h
    rcases List.append_eq_append_iff.1 h with ⟨rest, rfl, hys⟩ | ⟨rest, rfl, hys⟩
    · cases rest with
      | nil => exact .inl ⟨(List.append_nil xs).symm, (List.cons.inj hys).2⟩
      | cons z zs =>
        obtain ⟨rfl, htail⟩ := List.cons.inj hys
        exact .inr (.inl ⟨zs, rfl, htail⟩)
    · cases rest with
      | nil => exact .inl ⟨List.append_nil xs', (List.cons.inj hys).2.symm⟩
      | cons z zs =>
        obtain ⟨rfl, htail⟩ := List.cons.inj hys
        exact .inr (.inr ⟨zs, rfl, htail⟩)
  · rintro (⟨rfl, rfl⟩ | ⟨zs, rfl, rfl⟩ | ⟨zs, rfl, rfl⟩) <;> simp

/-- The second vendor goes on where the first ends, with a colon and with the beginning of the
identity of the first's rule, up to a colon there. -/
def Extends (vendor id vendor' id' : String) : Prop :=
  ∃ middle, vendor' = Gate.breakerKey vendor middle ∧ id = Gate.breakerKey middle id'

theorem extends_iff {vendor id vendor' id' : String} :
    Extends vendor id vendor' id' ↔ ∃ zs : List Char, vendor'.toList = vendor.toList ++ ':' :: zs ∧
      id.toList = zs ++ ':' :: id'.toList := by
  constructor
  · rintro ⟨middle, rfl, rfl⟩
    exact ⟨middle.toList, toList_breakerKey vendor middle, toList_breakerKey middle id'⟩
  · rintro ⟨zs, hvendor, hid⟩
    refine ⟨.ofList zs, String.toList_inj.1 ?_, String.toList_inj.1 ?_⟩
    · rw [toList_breakerKey, hvendor, String.toList_ofList]
    · rw [toList_breakerKey, hid, String.toList_ofList]

/-- The pairs that have the same key. -/
theorem breakerKey_eq_iff {vendor vendor' id id' : String} :
    Gate.breakerKey vendor id = Gate.breakerKey vendor' id' ↔ vendor = vendor' ∧ id = id' ∨
      Extends vendor id vendor' id' ∨ Extends vendor' id' vendor id := by
  rw [extends_iff, extends_iff, ← String.toList_inj, ← String.toList_inj, ← String.toList_inj,
    toList_breakerKey, toList_breakerKey]
  exact append_cons_eq_append_cons

example : Gate.breakerKey "a" "b:c" = Gate.breakerKey "a:b" "c" := by decide

/-- A vendor without a colon in its name goes on with none. -/
theorem not_extends_of_not_mem {vendor vendor' : String} (h : ':' ∉ vendor'.toList)
    (id id' : String) : ¬Extends vendor id vendor' id' := by
  rintro ⟨middle, rfl, -⟩
  rw [toList_breakerKey] at h
  exact h (List.mem_append_right _ List.mem_cons_self)

/-! ### What goes on through gates -/

/-- The world of the gates, and the gates that rules got so far. -/
structure Gates (σ : Type) where
  world : World σ
  held : List (Gate σ)

namespace Gates

variable {σ : Type} {checkers : CheckerRegistry σ} {s : Gates σ} {key : String}

/-- What can go on. A rule gets its gate, possibly again and under other settings; a question is put
through a gate; a call in flight through one does something to its breaker; or time passes. -/
inductive Act where
  | resolve (rule : Rule)
  | judge (i : Nat) (q : Question)
  | alter (i : Nat) (change : CircuitBreaker → CircuitBreaker)
  | wait (ms : Nat)

/-- There are no breakers, and no rule has a gate. -/
def start (now : Nat) (peers : σ) : Gates σ := ⟨⟨now, .empty, peers⟩, []⟩

/-- One act. -/
def step (checkers : CheckerRegistry σ) (s : Gates σ) : Act → Gates σ
  | .resolve rule =>
    match Gate.ofRule rule checkers s.world with
    | .ok (some g, world) => ⟨world, s.held ++ [g]⟩
    | _ => s
  | .judge i q =>
    match s.held[i]? with
    | some g => { s with world := (g.judge s.world q).2 }
    | none => s
  | .alter i change =>
    match s.held[i]? with
    | some g =>
      match s.world.breakers.breaker? g.breaker with
      | some b =>
        { s with world.breakers := s.world.breakers.update g.breaker (change b) }
      | none => s
    | none => s
  | .wait ms => { s with world.now := s.world.now + ms }

/-- Some acts, one after the other. -/
def run (checkers : CheckerRegistry σ) (s : Gates σ) (acts : List Act) : Gates σ :=
  acts.foldl (step checkers) s

/-- The breakers that were given out, with the keys that they were given for. -/
def owned (s : Gates σ) : List (String × BreakerId) :=
  s.held.map fun g => (g.breakerName, g.breaker)

/-- The key of the breaker of a rule, if the rule has a checker. -/
def ruleKey? (checkers : CheckerRegistry σ) (rule : Rule) : Option String :=
  rule.contentSecurity.bind fun settings =>
    (checkers.get settings.vendor).toOption.map fun c => Gate.breakerKey c.vendor rule.id

/-- The key of the breaker that an act may change. -/
def key? (checkers : CheckerRegistry σ) (s : Gates σ) : Act → Option String
  | .resolve rule => ruleKey? checkers rule
  | .judge i _ | .alter i _ => s.held[i]?.map (·.breakerName)
  | .wait _ => none

/-- No act goes on through a gate with this key. -/
def Avoids (checkers : CheckerRegistry σ) (key : String) : Gates σ → List Act → Prop
  | _, [] => True
  | s, act :: acts =>
    s.key? checkers act ≠ some key ∧ Avoids checkers key (s.step checkers act) acts

/-- The gate that a rule gets. -/
theorem exists_step_resolve {rule : Rule} {settings : ContentSecurity} {c : Checker σ}
    (hsettings : rule.contentSecurity = some settings)
    (hchecker : checkers.get settings.vendor = .ok c) (s : Gates σ) :
    ∃ g, g.settings = settings ∧ g.breakerName = Gate.breakerKey c.vendor rule.id ∧
      g.breaker = (s.world.breakers.getOrCreate g.breakerName settings.breaker s.world.now).2 ∧
      (s.step checkers (.resolve rule)).world.breakers =
        (s.world.breakers.getOrCreate g.breakerName settings.breaker s.world.now).1 ∧
      (s.step checkers (.resolve rule)).held = s.held ++ [g] := by
  simp only [step, Gate.ofRule, hsettings, hchecker]
  exact ⟨_, rfl, rfl, rfl, rfl, rfl⟩

/-- A rule without a checker gets no gate. -/
theorem step_resolve_of_none {rule : Rule} (h : ruleKey? checkers rule = none) (s : Gates σ) :
    s.step checkers (.resolve rule) = s := by
  cases hsettings : rule.contentSecurity with
  | none => simp only [step, Gate.ofRule, hsettings]
  | some settings =>
    cases hchecker : checkers.get settings.vendor with
    | error fault => simp only [step, Gate.ofRule, hsettings, hchecker]
    | ok c => simp [ruleKey?, hsettings, hchecker, Except.toOption] at h

theorem ruleKey?_eq_some {rule : Rule} (h : ruleKey? checkers rule = some key) :
    ∃ settings c, rule.contentSecurity = some settings ∧ checkers.get settings.vendor = .ok c ∧
      key = Gate.breakerKey c.vendor rule.id := by
  obtain ⟨settings, hsettings, hmap⟩ := Option.bind_eq_some_iff.1 h
  obtain ⟨c, hc, hkey⟩ := Option.map_eq_some_iff.1 hmap
  refine ⟨settings, c, hsettings, ?_, hkey.symm⟩
  cases hchecker : checkers.get settings.vendor with
  | error fault =>
    rw [hchecker] at hc
    contradiction
  | ok c' =>
    rw [hchecker] at hc
    rw [Option.some.inj hc]

/-- A question changes the breaker of the gate at most. -/
theorem breakers_judge (g : Gate σ) (w : World σ) (q : Question) :
    (g.judge w q).2.breakers = w.breakers ∨
      ∃ b, (g.judge w q).2.breakers = w.breakers.update g.breaker b := by
  cases hb : w.breakers.breaker? g.breaker with
  | none =>
    left
    simp only [Gate.judge, hb]
  | some b =>
    right
    simp only [Gate.judge, hb]
    exact ⟨_, rfl⟩

/-- An act leaves the breakers alone, or it changes one that was given out, or it asks for the one
of a rule. -/
theorem step_cases (checkers : CheckerRegistry σ) (s : Gates σ) (act : Act) :
    ((s.step checkers act).world.breakers = s.world.breakers ∧
        (s.step checkers act).held = s.held) ∨
      (∃ g ∈ s.held, ∃ b, s.key? checkers act = some g.breakerName ∧
        (s.step checkers act).world.breakers = s.world.breakers.update g.breaker b ∧
          (s.step checkers act).held = s.held) ∨
      ∃ g settings, s.key? checkers act = some g.breakerName ∧
        (s.step checkers act).world.breakers =
          (s.world.breakers.getOrCreate g.breakerName settings s.world.now).1 ∧
        g.breaker = (s.world.breakers.getOrCreate g.breakerName settings s.world.now).2 ∧
          (s.step checkers act).held = s.held ++ [g] := by
  cases act with
  | wait ms => exact .inl ⟨rfl, rfl⟩
  | judge i q =>
    cases hget : s.held[i]? with
    | none =>
      have hstep : s.step checkers (.judge i q) = s := by simp only [step, hget]
      rw [hstep]
      exact .inl ⟨rfl, rfl⟩
    | some g =>
      have hstep : s.step checkers (.judge i q) = { s with world := (g.judge s.world q).2 } := by
        simp only [step, hget]
      have hkey : s.key? checkers (.judge i q) = some g.breakerName := by simp [key?, hget]
      rw [hstep]
      rcases breakers_judge g s.world q with hsame | ⟨b, hchange⟩
      · exact .inl ⟨hsame, rfl⟩
      · exact .inr (.inl ⟨g, List.mem_of_getElem? hget, b, hkey, hchange, rfl⟩)
  | alter i change =>
    cases hget : s.held[i]? with
    | none =>
      have hstep : s.step checkers (.alter i change) = s := by simp only [step, hget]
      rw [hstep]
      exact .inl ⟨rfl, rfl⟩
    | some g =>
      have hkey : s.key? checkers (.alter i change) = some g.breakerName := by simp [key?, hget]
      cases hb : s.world.breakers.breaker? g.breaker with
      | none =>
        have hstep : s.step checkers (.alter i change) = s := by simp only [step, hget, hb]
        rw [hstep]
        exact .inl ⟨rfl, rfl⟩
      | some b =>
        have hstep : s.step checkers (.alter i change) =
            { s with world.breakers := s.world.breakers.update g.breaker (change b) } := by
          simp only [step, hget, hb]
        rw [hstep]
        exact .inr (.inl ⟨g, List.mem_of_getElem? hget, change b, hkey, rfl, rfl⟩)
  | resolve rule =>
    cases hkey : ruleKey? checkers rule with
    | none =>
      rw [step_resolve_of_none hkey]
      exact .inl ⟨rfl, rfl⟩
    | some key =>
      obtain ⟨settings, c, hsettings, hchecker, rfl⟩ := ruleKey?_eq_some hkey
      obtain ⟨g, rfl, hname, hid, hbreakers, hheld⟩ := exists_step_resolve hsettings hchecker s
      exact .inr (.inr ⟨g, g.settings.breaker, hname ▸ hkey, hbreakers, hid, hheld⟩)

/-! ### Runs -/

theorem isSeparate_step (checkers : CheckerRegistry σ) (h : s.world.breakers.IsSeparate s.owned)
    (act : Act) :
    (s.step checkers act).world.breakers.IsSeparate (s.step checkers act).owned := by
  rcases step_cases checkers s act with ⟨hbreakers, hheld⟩ | ⟨g, -, b, -, hbreakers, hheld⟩ |
    ⟨g, settings, -, hbreakers, hid, hheld⟩
  · rw [hbreakers, owned, hheld]
    exact h
  · rw [hbreakers, owned, hheld]
    exact h.update g.breaker b
  · have howned : (s.step checkers act).owned = s.owned ++ [(g.breakerName,
        (s.world.breakers.getOrCreate g.breakerName settings s.world.now).2)] := by
      rw [owned, hheld, List.map_append, ← hid]
      rfl
    rw [hbreakers, howned]
    exact h.getOrCreate g.breakerName settings s.world.now

theorem isSeparate_run (checkers : CheckerRegistry σ) (now : Nat) (peers : σ) (acts : List Act) :
    ((start now peers).run checkers acts).world.breakers.IsSeparate
      ((start now peers).run checkers acts).owned := by
  suffices h : ∀ s : Gates σ, s.world.breakers.IsSeparate s.owned →
      (s.run checkers acts).world.breakers.IsSeparate (s.run checkers acts).owned from
    h _ .empty
  induction acts with
  | nil => exact fun s hs => hs
  | cons act acts ih => exact fun s hs => ih _ (isSeparate_step checkers hs act)

/-- An act through other gates leaves the breaker in use for a key as it is. -/
theorem find?_step (h : s.world.breakers.IsSeparate s.owned) {act : Act}
    (hact : s.key? checkers act ≠ some key) :
    (s.step checkers act).world.breakers.find? key = s.world.breakers.find? key := by
  rcases step_cases checkers s act with ⟨hbreakers, -⟩ | ⟨g, hg, b, hkey, hbreakers, -⟩ |
    ⟨g, settings, hkey, hbreakers, -⟩
  · rw [hbreakers]
  · have hne : key ≠ g.breakerName := by
      rintro rfl
      exact hact hkey
    rw [hbreakers]
    exact h.find?_update_of_ne (.inr (List.mem_map.2 ⟨g, hg, rfl⟩)) hne b
  · have hne : key ≠ g.breakerName := by
      rintro rfl
      exact hact hkey
    rw [hbreakers]
    exact h.find?_getOrCreate_of_ne hne settings s.world.now

/-- So do any number of them. -/
theorem find?_run (h : s.world.breakers.IsSeparate s.owned) {acts : List Act}
    (hacts : Avoids checkers key s acts) :
    (s.run checkers acts).world.breakers.find? key = s.world.breakers.find? key := by
  induction acts generalizing s with
  | nil => rfl
  | cons act acts ih =>
    have hstep := find?_step h hacts.1
    rw [← hstep]
    exact ih (isSeparate_step checkers h act) hacts.2

/-! ### Two rules -/

/-- The gate of a rule has the breaker in use for its key, with the settings of the rule, and no
acts through other gates change that breaker or put another in its place. -/
def IsIsolated (checkers : CheckerRegistry σ) (s : Gates σ) (g : Gate σ) : Prop :=
  ∃ b, b.settings = g.settings.breaker ∧
    ∀ acts, Avoids checkers g.breakerName s acts →
      (s.run checkers acts).world.breakers.find? g.breakerName = some (g.breaker, b)

/-- What goes on through another gate leaves an isolated one isolated. -/
theorem IsIsolated.step {g : Gate σ} (h : s.IsIsolated checkers g) {act : Act}
    (hact : s.key? checkers act ≠ some g.breakerName) :
    (s.step checkers act).IsIsolated checkers g := by
  obtain ⟨b, hsettings, hfind⟩ := h
  exact ⟨b, hsettings, fun acts hacts => hfind (act :: acts) ⟨hact, hacts⟩⟩

/-- The gate that a rule gets is isolated. -/
theorem exists_isIsolated_resolve (h : s.world.breakers.IsSeparate s.owned) {rule : Rule}
    {settings : ContentSecurity} {c : Checker σ} (hsettings : rule.contentSecurity = some settings)
    (hchecker : checkers.get settings.vendor = .ok c) :
    ∃ g, (s.step checkers (.resolve rule)).held = s.held ++ [g] ∧
      g.breakerName = Gate.breakerKey c.vendor rule.id ∧
      (s.step checkers (.resolve rule)).IsIsolated checkers g := by
  have hseparate := isSeparate_step checkers h (.resolve rule)
  obtain ⟨g, rfl, hname, hid, hbreakers, hheld⟩ := exists_step_resolve hsettings hchecker s
  obtain ⟨b, hb, hfind⟩ := s.world.breakers.exists_find?_getOrCreate g.breakerName
    g.settings.breaker s.world.now
  refine ⟨g, hheld, hname, b, hb, fun acts hacts => ?_⟩
  rw [find?_run hseparate hacts, hbreakers, hid]
  exact hfind

theorem ruleKey?_of_get {rule : Rule} {settings : ContentSecurity} {c : Checker σ}
    (hsettings : rule.contentSecurity = some settings)
    (hchecker : checkers.get settings.vendor = .ok c) :
    ruleKey? checkers rule = some (Gate.breakerKey c.vendor rule.id) := by
  simp only [ruleKey?, hsettings, hchecker, Option.bind_some, Except.toOption, Option.map_some]

/-- A rule that differs from another in the vendor or in its own identity has a breaker of its own,
unless one of the vendors goes on into the identity of the other's rule. Whatever goes on through
the gate of the other, or through any gate but its own, it keeps this breaker, as its own calls have
left it. -/
theorem isolated_breakers (checkers : CheckerRegistry σ) (now : Nat) (peers : σ)
    (before : List Act) {rule rule' : Rule} {settings settings' : ContentSecurity}
    {c c' : Checker σ} (hsettings : rule.contentSecurity = some settings)
    (hsettings' : rule'.contentSecurity = some settings')
    (hchecker : checkers.get settings.vendor = .ok c)
    (hchecker' : checkers.get settings'.vendor = .ok c')
    (hdiffer : c.vendor ≠ c'.vendor ∨ rule.id ≠ rule'.id)
    (hapart : ¬Extends c.vendor rule.id c'.vendor rule'.id)
    (hapart' : ¬Extends c'.vendor rule'.id c.vendor rule.id) :
    let s := (start now peers).run checkers before
    let s' := s.run checkers [.resolve rule, .resolve rule']
    ∃ g g', s'.held = s.held ++ [g, g'] ∧
      g.breakerName = Gate.breakerKey c.vendor rule.id ∧
      g'.breakerName = Gate.breakerKey c'.vendor rule'.id ∧
      g.breakerName ≠ g'.breakerName ∧ g.breaker ≠ g'.breaker ∧
      s'.IsIsolated checkers g ∧ s'.IsIsolated checkers g' := by
  intro s s'
  have hs : s.world.breakers.IsSeparate s.owned := isSeparate_run checkers now peers before
  obtain ⟨g, hg, hname, hisolated⟩ := exists_isIsolated_resolve hs hsettings hchecker
  have hfirst := isSeparate_step checkers hs (.resolve rule)
  obtain ⟨g', hg', hname', hisolated'⟩ := exists_isIsolated_resolve hfirst hsettings' hchecker'
  have hsecond : s'.world.breakers.IsSeparate s'.owned :=
    isSeparate_step checkers hfirst (.resolve rule')
  have hkeys : g.breakerName ≠ g'.breakerName := by
    rw [hname, hname', Ne, breakerKey_eq_iff]
    rintro (⟨hvendor, hid⟩ | hextends | hextends)
    · exact hdiffer.elim (absurd hvendor) (absurd hid)
    · exact hapart hextends
    · exact hapart' hextends
  have hheld : s'.held = s.held ++ [g, g'] := by
    show ((s.step checkers (.resolve rule)).step checkers (.resolve rule')).held = _
    rw [hg', hg, List.append_assoc]
    rfl
  refine ⟨g, g', hheld, hname, hname', hkeys, ?_, ?_, hisolated'⟩
  · -- a breaker that both held would belong to both keys
    intro hid
    have hmem : ∀ gate ∈ [g, g'], (gate.breakerName, gate.breaker) ∈ s'.owned := by
      intro gate hgate
      apply List.mem_map.2 ⟨gate, _, rfl⟩
      rw [hheld]
      exact List.mem_append_right _ hgate
    have hboth : (g'.breakerName, g.breaker) ∈ s'.owned := by
      rw [hid]
      exact hmem g' (by simp)
    exact hkeys (hsecond.inj _ _ g.breaker (.inr (hmem g (by simp))) (.inr hboth))
  · have hother : (s.step checkers (.resolve rule)).key? checkers (.resolve rule') ≠
        some g.breakerName := by
      show ruleKey? checkers rule' ≠ _
      rw [ruleKey?_of_get hsettings' hchecker', ← hname']
      intro hsame
      exact hkeys (Option.some.inj hsame).symm
    exact hisolated.step hother

/-- A rule that asks a vendor. -/
def asking (id vendor : String) (settings : BreakerSettings) : Rule :=
  ⟨id, some { ContentSecurity.ofVendor vendor "http://vendor" with breaker := settings }, none⟩

/-- A vendor that has no objections. -/
def content (vendor : String) : Checker Unit := ⟨vendor, fun _ _ w => (.atOnce (.ok .pass), w)⟩

/-- Vendors that have no objections. -/
def contents (vendors : List String) : CheckerRegistry Unit :=
  vendors.foldl (fun r vendor => r.register (content vendor)) .empty

theorem isolated_breakers_sameId :
    let checkers := contents ["zkrj", "shumei"]
    let s' := (start 0 ()).run checkers
      [.resolve (asking "chat" "zkrj" .standard), .resolve (asking "chat" "shumei" .standard)]
    ∃ g g', s'.held = [g, g'] ∧ g.breakerName = Gate.breakerKey "zkrj" "chat" ∧
      g'.breakerName = Gate.breakerKey "shumei" "chat" ∧
      g.breakerName ≠ g'.breakerName ∧ g.breaker ≠ g'.breaker ∧
      s'.IsIsolated checkers g ∧ s'.IsIsolated checkers g' :=
  @isolated_breakers _ (contents ["zkrj", "shumei"]) 0 () [] (asking "chat" "zkrj" .standard)
    (asking "chat" "shumei" .standard) _ _ (content "zkrj") (content "shumei") rfl rfl
    (by with_unfolding_all rfl) (by with_unfolding_all rfl) (.inl (by decide))
    (not_extends_of_not_mem (by decide) _ _) (not_extends_of_not_mem (by decide) _ _)

/-- Of two rules with the same key, the second has the breaker of the first, or it has put another
in its place. -/
theorem breaker_eq_iff {rule rule' : Rule} {settings settings' : ContentSecurity} {c c' : Checker σ}
    (hsettings : rule.contentSecurity = some settings)
    (hsettings' : rule'.contentSecurity = some settings')
    (hchecker : checkers.get settings.vendor = .ok c)
    (hchecker' : checkers.get settings'.vendor = .ok c')
    (hkey : Gate.breakerKey c.vendor rule.id = Gate.breakerKey c'.vendor rule'.id) (s : Gates σ) :
    let s' := s.run checkers [.resolve rule, .resolve rule']
    ∃ g g', s'.held = s.held ++ [g, g'] ∧ g.breakerName = g'.breakerName ∧
      (g.breaker = g'.breaker ↔ settings.breaker = settings'.breaker) ∧
        ∃ b, s'.world.breakers.find? g.breakerName = some (g'.breaker, b) := by
  intro s'
  obtain ⟨g, rfl, hname, hid, hbreakers, hheld⟩ := exists_step_resolve hsettings hchecker s
  obtain ⟨g', rfl, hname', hid', hbreakers', hheld'⟩ := exists_step_resolve hsettings' hchecker'
    (s.step checkers (.resolve rule))
  have hsame : g.breakerName = g'.breakerName := by rw [hname, hname', hkey]
  rw [hbreakers, ← hsame] at hid' hbreakers'
  obtain ⟨b, -, hfind⟩ := (s.world.breakers.getOrCreate g.breakerName g.settings.breaker
    s.world.now).1.exists_find?_getOrCreate g.breakerName g'.settings.breaker
      (s.step checkers (.resolve rule)).world.now
  rw [← hbreakers', ← hid'] at hfind
  refine ⟨g, g', ?_, hsame, ?_, b, hfind⟩
  · show ((s.step checkers (.resolve rule)).step checkers (.resolve rule')).held = _
    rw [hheld', hheld, List.append_assoc]
    rfl
  · rw [hid, hid', eq_comm, s.world.breakers.given_eq_iff, eq_comm]

/-- Rules of the vendors `a` and `a:b` with one key: under the same settings they have the same
breaker, and under others each of them puts its own in place of the other's. -/
theorem colliding_breakers :
    let checkers := contents ["a", "a:b"]
    let first := asking "b:c" "a" .standard
    let second := asking "c" "a:b" .standard
    let other := asking "c" "a:b" { BreakerSettings.standard with timeoutMs := 9 }
    ((start 0 ()).run checkers [.resolve first, .resolve second]).held.map
        (fun g => (g.checker.vendor, g.breaker)) = [("a", 0), ("a:b", 0)] ∧
      ((start 0 ()).run checkers [.resolve first, .resolve other, .resolve first]).held.map
        (fun g => (g.checker.vendor, g.breaker)) = [("a", 0), ("a:b", 1), ("a", 2)] := by
  decide +kernel

end Gates

end ModerationGateway.Moderation
