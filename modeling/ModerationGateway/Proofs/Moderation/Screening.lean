import ModerationGateway.Moderation.Screening
import ModerationGateway.Proofs.Chat.Documents
import ModerationGateway.Proofs.Words.Cells
import ModerationGateway.Proofs.Words.Joined
import ModerationGateway.Proofs.Words.WordList

/-!
# What screening finds

The word list of a rule is searched for in the prompt, where the parts of a request stand one below
the other. Nothing is found across two parts, and nothing in a part is missed, not even by letting
a blank prompt through unseen.

* `IsLineWord`, `isLineWord_of_mem_parseWordList`: what a word list can hold;
* `Mentions`, `hitsIn`: a listed word occurs in one of some parts, and the hits in all of them;
* `screenWords_of_offers`: the hits in the prompt are the hits in the parts;
* `isFaithful_screen`, `offers_screenAll`: screening keeps the matchers that it finds and makes, so
  a list is offered to every request;
* `IsScreenedBy`, `screen_exact`: a request is refused for its words exactly if its parts mention
  one.
-/

namespace ModerationGateway.Words

/-- A word in one line that is not blank. -/
def IsLineWord (w : String) : Prop := '\n' ∉ w.toList ∧ ∃ c ∈ w.toList, Text.isBlank c = false

instance (w : String) : Decidable (IsLineWord w) :=
  @instDecidableAnd _ _ inferInstance (List.decidableBEx _ w.toList)

theorem IsLineWord.ne_empty {w : String} (h : IsLineWord w) : w ≠ "" := by
  rintro rfl
  obtain ⟨c, hc, -⟩ := h.2
  simp at hc

/-- A trimmed word begins with a visible character. -/
theorem IsListed.isLineWord {w : String} (h : IsListed w) : IsLineWord w := by
  have hne : w.toList ≠ [] := mt String.toList_eq_nil_iff.1 h.ne_empty
  have hends := Text.trim_eq_self_iff.1 (trimmed_eq_iff.1 h.trimmed_eq) hne
  exact ⟨h.inLine, _, List.head_mem hne, hends.1⟩

/-- The words of a list that was written line by line. -/
theorem isLineWord_of_mem_parseWordList {content w : String} (h : w ∈ parseWordList content) :
    IsLineWord w :=
  (isListed_of_mem h).isLineWord

end ModerationGateway.Words

namespace ModerationGateway.Moderation

open ModerationGateway.Words

variable {s : SensitiveWords} {words parts : List String} {body : Bytes} {cache : MatcherCache}
  {source : WordSource}

/-- Some listed word occurs inside some part. -/
def Mentions (words parts : List String) : Prop :=
  ∃ w ∈ words, ∃ part ∈ parts, w.toList <:+: part.toList

instance (words parts : List String) : Decidable (Mentions words parts) :=
  inferInstanceAs (Decidable (∃ w ∈ words, ∃ part ∈ parts, w.toList <:+: part.toList))

/-- The hits of searching each part by itself, in order. -/
def hitsIn (words : List String) (mode : MatchMode) (parts : List String) : List String :=
  parts.flatMap (Matcher.ofWords words mode).search

theorem hitsIn_eq_nil_iff (hwords : ∀ w ∈ words, IsLineWord w) {mode : MatchMode} :
    hitsIn words mode parts = [] ↔ ¬Mentions words parts := by
  rw [hitsIn, List.flatMap_eq_nil_iff]
  simp only [Matcher.search_eq_nil_iff, Mentions, not_exists, not_and]
  constructor
  · intro h w hw part hpart
    exact h part hpart w hw (hwords w hw).ne_empty
  · intro h part hpart w hw _
    exact h w hw part hpart

theorem infix_intercalate (sep : String) {part : String} {parts : List String}
    (h : part ∈ parts) : part.toList <:+: (sep.intercalate parts).toList := by
  induction parts with
  | nil => exact absurd h List.not_mem_nil
  | cons first parts ih =>
    cases parts with
    | nil =>
      obtain rfl := List.mem_singleton.1 h
      rw [String.intercalate_singleton]
    | cons next parts =>
      rw [String.intercalate_cons_cons, String.toList_append, String.toList_append,
        List.append_assoc]
      rcases List.mem_cons.1 h with rfl | h
      · exact (List.prefix_append _ _).isInfix
      · exact (ih h).trans (List.suffix_append_of_suffix (List.suffix_append _ _)).isInfix

/-- A part is somewhere in the prompt. -/
theorem infix_prompt {part : String} (h : part ∈ Chat.parts body) :
    part.toList <:+: (Chat.prompt body).toList :=
  infix_intercalate "\n" h

/-- A blank prompt mentions nothing. -/
theorem not_mentions_of_isBlankText (hwords : ∀ w ∈ words, IsLineWord w)
    (hblank : Text.isBlankText (Chat.prompt body).toList = true) :
    ¬Mentions words (Chat.parts body) := by
  rintro ⟨w, hw, part, hpart, hoccurs⟩
  obtain ⟨c, hc, hvisible⟩ := (hwords w hw).2
  have hmem : c ∈ (Chat.prompt body).toList := (infix_prompt hpart).subset (hoccurs.subset hc)
  rw [Text.isBlankText, List.all_eq_true] at hblank
  rw [hblank c hmem] at hvisible
  contradiction

theorem screenWords_of_offers
    (hoffers : cache.Offers ⟨s.source, s.version, s.matchMode⟩ source words)
    (hwords : ∀ w ∈ words, IsLineWord w) (body : Bytes) :
    (screenWords (some s) (Chat.prompt body) cache source).2 =
      hitsIn words s.matchMode (Chat.parts body) := by
  obtain ⟨found, hget, hmatcher⟩ := MatcherCache.get_of_offers hoffers
  have hresult : (screenWords (some s) (Chat.prompt body) cache source).2 =
      found.matcher.search (Chat.prompt body) := by
    rw [screenWords]
    generalize cache.get ⟨s.source, s.version, s.matchMode⟩ source = got at hget
    obtain ⟨after, result⟩ := got
    obtain rfl : result = .ok found := hget
    rfl
  rw [hresult, hmatcher, Chat.prompt, hitsIn,
    Matcher.search_intercalate fun w hw => (hwords w hw).1]

/-! ### Screening -/

/-- Screening goes on with the matchers that it finds, and the one that it makes is right. -/
theorem isFaithful_screen (h : cache.IsFaithful source) (listed : Option SensitiveWords)
    (settings : Option ContentSecurity) (body : Bytes) :
    (screen listed settings body cache source).1.IsFaithful source := by
  have hwords : (screenWords listed (Chat.prompt body) cache source).1.IsFaithful source := by
    cases listed with
    | none => exact h
    | some s =>
      have hget := h.get ⟨s.source, s.version, s.matchMode⟩
      unfold screenWords
      dsimp only
      split
      · next heq => rwa [heq] at hget
      · next heq => rwa [heq] at hget
  unfold screen
  dsimp only
  split
  · exact h
  · split
    · next heq => rwa [heq] at hwords
    · next heq => rwa [heq] at hwords

/-- The matchers after some requests, screened one after the other. -/
def screenAll (settings : Option ContentSecurity)
    (requests : List (Option SensitiveWords × Bytes)) (cache : MatcherCache)
    (source : WordSource) : MatcherCache :=
  requests.foldl (fun cache r => (screen r.1 settings r.2 cache source).1) cache

/-- So do any number of requests, from an empty cache for instance. -/
theorem isFaithful_screenAll (h : cache.IsFaithful source) (settings : Option ContentSecurity)
    (requests : List (Option SensitiveWords × Bytes)) :
    (screenAll settings requests cache source).IsFaithful source := by
  induction requests generalizing cache with
  | nil => exact h
  | cons r requests ih => exact ih (isFaithful_screen h r.1 settings r.2)

/-- A list that can be loaded is offered after any requests. -/
theorem offers_screenAll {key : MatcherKey} (hload : source.load key.source = .ok words)
    {settings : Option ContentSecurity} {requests : List (Option SensitiveWords × Bytes)}
    (hcache : cache = screenAll settings requests .empty source) :
    cache.Offers key source words :=
  hcache ▸ (isFaithful_screenAll (.empty source) settings requests).offers hload

/-- A checker's verdict on the prompt has another code. -/
theorem code_of_resolvePrompt {policy : FailurePolicy} {v : Verdict} {status : Nat} {e : Envelope}
    (h : resolvePrompt policy v = .rejected status e) : e.code ≠ 1402 := by
  cases v with
  | pass => contradiction
  | block reason details =>
    obtain ⟨-, rfl⟩ := Screened.rejected.inj h
    simp [Envelope.promptViolation]
  | error message code =>
    cases policy with
    | failOpen => contradiction
    | failClosed =>
      obtain ⟨-, rfl⟩ := Screened.rejected.inj h
      simp [Envelope.unavailable]

theorem code_of_screenPrompt {settings : Option ContentSecurity} {prompt : String} {σ : Type}
    {judge : Consult.Judge σ} {st : σ} {status : Nat} {e : Envelope}
    (h : ((screenPrompt settings prompt).run judge st).1 = .rejected status e) :
    e.code ≠ 1402 := by
  cases settings with
  | none => contradiction
  | some c => exact code_of_resolvePrompt h

theorem screen_of_mentions
    (hoffers : cache.Offers ⟨s.source, s.version, s.matchMode⟩ source words)
    (hwords : ∀ w ∈ words, IsLineWord w) (hmentions : Mentions words (Chat.parts body))
    (settings : Option ContentSecurity) :
    (screen (some s) settings body cache source).2 =
      .done (.rejected 400 (.sensitiveWords (hitsIn words s.matchMode (Chat.parts body)))) := by
  have hblank : ¬Text.isBlankText (Chat.prompt body).toList = true :=
    fun hblank => not_mentions_of_isBlankText hwords hblank hmentions
  have hhits := screenWords_of_offers hoffers hwords body
  have hne : hitsIn words s.matchMode (Chat.parts body) ≠ [] :=
    fun hnil => (hitsIn_eq_nil_iff hwords).1 hnil hmentions
  rw [← hhits] at hne ⊢
  rw [screen, if_neg hblank]
  generalize screenWords (some s) (Chat.prompt body) cache source = screened at hne ⊢
  obtain ⟨after, hits⟩ := screened
  cases hits with
  | nil => exact absurd rfl hne
  | cons hit hits => rfl

theorem screen_of_not_mentions
    (hoffers : cache.Offers ⟨s.source, s.version, s.matchMode⟩ source words)
    (hwords : ∀ w ∈ words, IsLineWord w) (hmentions : ¬Mentions words (Chat.parts body))
    (settings : Option ContentSecurity) :
    (screen (some s) settings body cache source).2 = .done .allowed ∨
      (screen (some s) settings body cache source).2 =
        screenPrompt settings (Chat.prompt body) := by
  have hhits := screenWords_of_offers hoffers hwords body
  rw [(hitsIn_eq_nil_iff hwords).2 hmentions] at hhits
  unfold screen
  dsimp only
  split
  · exact .inl rfl
  · right
    generalize screenWords (some s) (Chat.prompt body) cache source = screened at hhits ⊢
    obtain ⟨after, hits⟩ := screened
    obtain rfl : hits = [] := hhits
    rfl

/-- What screening by a word list does with a request that has these parts. -/
structure IsScreenedBy (words : List String) (mode : MatchMode) (body : Bytes)
    (parts : List String) (screened : Consult Screened) : Prop where
  /-- The request is refused for its words exactly if a part mentions one, whatever a checker would
  say. -/
  refused_iff : ∀ {σ : Type} (judge : Consult.Judge σ) (st : σ),
    (∃ e, (screened.run judge st).1 = .rejected 400 e ∧ e.code = 1402) ↔ Mentions words parts
  /-- Then it is told the hits of each part, in order, and no checker is asked. -/
  told : Mentions words parts → ∃ e, screened = .done (.rejected 400 e) ∧ e.code = 1402 ∧
    e.detail = "[" ++ ", ".intercalate (hitsIn words mode parts) ++ "]"
  /-- A prompt that is let through unseen for being blank mentions no word. -/
  blank : Text.isBlankText (Chat.prompt body).toList = true → ¬Mentions words parts

theorem isScreenedBy_screen
    (hoffers : cache.Offers ⟨s.source, s.version, s.matchMode⟩ source words)
    (hwords : ∀ w ∈ words, IsLineWord w) (settings : Option ContentSecurity) (body : Bytes) :
    IsScreenedBy words s.matchMode body (Chat.parts body)
      (screen (some s) settings body cache source).2 where
  refused_iff judge st := by
    constructor
    · rintro ⟨e, hrun, hcode⟩
      by_contra hmentions
      rcases screen_of_not_mentions hoffers hwords hmentions settings with h | h
      · rw [h] at hrun
        contradiction
      · rw [h] at hrun
        exact code_of_screenPrompt hrun hcode
    · intro hmentions
      rw [screen_of_mentions hoffers hwords hmentions settings]
      exact ⟨_, rfl, rfl⟩
  told hmentions := ⟨_, screen_of_mentions hoffers hwords hmentions settings, rfl, rfl⟩
  blank := not_mentions_of_isBlankText hwords

/-- A request has its parts, and under a rule with a word list it is refused for its words exactly
if a listed word occurs inside one of them. -/
theorem screen_exact
    (hoffers : cache.Offers ⟨s.source, s.version, s.matchMode⟩ source words)
    (hwords : ∀ w ∈ words, IsLineWord w) (settings : Option ContentSecurity) (body : Bytes) :
    Chat.IsTakenApart body ∧ ∀ parts, Chat.HasParts body parts →
      IsScreenedBy words s.matchMode body parts
        (screen (some s) settings body cache source).2 := by
  refine ⟨Chat.isTakenApart body, fun parts hparts => ?_⟩
  rw [hparts.eq_parts]
  exact isScreenedBy_screen hoffers hwords settings body

/-- Two messages, one of them in two items. Both hold listed words, though the body itself does
not. -/
def twoMessages : Bytes :=
  Utf8.ofText ("\x7b\"messages\":[\x7b\"content\":\"us\\u0068e\"\x7d,\x7b\"content\":" ++
    "[\x7b\"text\":\"rs\"\x7d,\x7b\"text\":\"us\\u0068ers\"\x7d]\x7d]\x7d")

/-- The list is loaded for another request first, and then the two messages are refused. -/
theorem screen_exact_twoMessages :
    let s : SensitiveWords := ⟨"default", "1", .allPerPosition⟩
    let words := parseWordList " he\nshe \n\nhers"
    let source : WordSource := .lists [("default", words)]
    ∃ cache, cache = screenAll none [(some s, Utf8.ofText "ushers"), (none, twoMessages)] .empty
        source ∧ cache.loads = 1 ∧ cache.Offers ⟨s.source, s.version, s.matchMode⟩ source words ∧
      (∀ w ∈ words, IsLineWord w) ∧ Chat.HasParts twoMessages ["ushe", "rs", "ushers"] ∧
      Mentions words ["ushe", "rs", "ushers"] ∧ ¬Mentions words [Utf8.textLossy twoMessages] ∧
      ∃ e, (screen (some s) none twoMessages cache source).2 = .done (.rejected 400 e) ∧
        e.detail = "[she, he, she, he, hers]" := by
  intro s words source
  obtain ⟨cache, hcache⟩ : ∃ cache, cache = screenAll none [(some s, Utf8.ofText "ushers"),
    (none, twoMessages)] .empty source := ⟨_, rfl⟩
  have hloads : cache.loads = 1 := by
    rw [hcache]
    decide +kernel
  have hoffers : cache.Offers ⟨s.source, s.version, s.matchMode⟩ source words :=
    offers_screenAll rfl hcache
  have hwords : ∀ w ∈ words, IsLineWord w := fun _ => isLineWord_of_mem_parseWordList
  have hparts : Chat.HasParts twoMessages ["ushe", "rs", "ushers"] :=
    Chat.hasParts_iff.2 (by decide +kernel)
  have hmentions : Mentions words ["ushe", "rs", "ushers"] := by decide +kernel
  obtain ⟨e, hscreen, -, hdetail⟩ :=
    ((screen_exact hoffers hwords none twoMessages).2 _ hparts).told hmentions
  refine ⟨cache, hcache, hloads, hoffers, hwords, hparts, hmentions, by decide +kernel, e, hscreen,
    hdetail.trans ?_⟩
  decide +kernel

end ModerationGateway.Moderation
