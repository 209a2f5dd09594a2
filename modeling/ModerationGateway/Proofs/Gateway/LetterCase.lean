import Mathlib.Data.List.Infix
import ModerationGateway.Proofs.Gateway.Withholding
import ModerationGateway.Proofs.Text.Utf8

/-!
# The letter case of a type

The name of an encoding is read in lower case, and the type of a body as it is spelled. So two
spellings of one type may be moderated in two ways.

* `typeLowered`, `SameButCase`: responses that differ in the case of their types;
* `IsModeratedAlike`: the same checks are made, and the client has the same status and body;
* `isModeratedAlike_of_treatment`, `treatment_eq_of_isModeratedAlike`: the treatment decides;
* `typeMentions_typeLowered`: a type in lower case mentions whatever it mentions in any case;
* `HeedsCase`, `heedsCase_moderate`: the whole;
* `heedsCase_moderate_events`, `letterCase_switches_off`: two spellings that make no difference, and
  two that do.
-/

namespace ModerationGateway.Gateway

open ModerationGateway.Http ModerationGateway.Moderation ModerationGateway.Stream

variable {σ : Type} {rule : Rule} {g : Gate σ} {r r' : Response}

/-! ### Spellings -/

/-- The lower-case form of an ASCII letter; every other byte stays. -/
def lowerByte (b : UInt8) : UInt8 := if 0x41 ≤ b ∧ b ≤ 0x5A then b + 0x20 else b

/-- The value of a header, a type in lower case. -/
def valueLowered (name : String) (value : Bytes) : Bytes :=
  if name = "content-type" then value.map lowerByte else value

/-- Headers with the types in lower case. -/
def typeLowered (h : Headers) : Headers :=
  h.map fun (name, value) => (name, valueLowered name value)

/-- Responses that differ at most in the letter case of their types. -/
structure SameButCase (r r' : Response) : Prop where
  status : r.status = r'.status
  reason : r.reason = r'.reason
  headers : typeLowered r.headers = typeLowered r'.headers
  body : r.body = r'.body

theorem first?_typeLowered (h : Headers) (name : String) :
    (typeLowered h).first? name = (h.first? name).map (valueLowered name) := by
  induction h with
  | nil => rfl
  | cons line h ih =>
    obtain ⟨other, value⟩ := line
    show List.lookup name ((other, valueLowered other value) :: typeLowered h) =
      (List.lookup name ((other, value) :: h)).map (valueLowered name)
    rw [List.lookup_cons, List.lookup_cons]
    by_cases hname : name = other
    · subst hname
      simp
    · rw [beq_eq_false_iff_ne.2 hname]
      exact ih

@[simp] theorem encoding?_typeLowered (h : Headers) : encoding? (typeLowered h) = encoding? h := by
  have hfirst : (typeLowered h).first? "content-encoding" = h.first? "content-encoding" := by
    rw [first?_typeLowered]
    cases h.first? "content-encoding" <;> rfl
  unfold encoding?
  rw [hfirst]

/-- The case of a type does not touch the encoding. -/
theorem SameButCase.encoding? (h : SameButCase r r') :
    encoding? r.headers = encoding? r'.headers := by
  rw [← encoding?_typeLowered r.headers, h.headers, encoding?_typeLowered]

/-! ### What a type mentions -/

/-- A byte that may stand in a visible text. -/
def isVisible (b : UInt8) : Bool := b == 0x09 || (0x20 ≤ b && b < 0x7F)

/-- A visible byte is ASCII; in lower case it is the character in lower case, and as visible. -/
theorem lowerByte_spec {b : UInt8} (h : isVisible b = true) :
    b < 0x80 ∧ isVisible (lowerByte b) = true ∧
      Char.ofNat (lowerByte b).toNat = (Char.ofNat b.toNat).toLower := by
  have all : ∀ n : Fin 256, isVisible (.ofNat n) = true →
      UInt8.ofNat n < 0x80 ∧ isVisible (lowerByte (.ofNat n)) = true ∧
        Char.ofNat (lowerByte (.ofNat n)).toNat = (Char.ofNat (UInt8.ofNat n).toNat).toLower := by
    decide +kernel
  have hb := all ⟨b.toNat, b.toNat_lt⟩
  rw [UInt8.ofNat_toNat] at hb
  exact hb h

theorem visible?_eq_some_iff {value : Bytes} {text : String} :
    Headers.visible? value = some text ↔ (∀ b ∈ value, isVisible b = true) ∧
      text = String.ofList (value.map fun b => Char.ofNat b.toNat) := by
  show (if value.all isVisible then Utf8.text? value else none) = some text ↔ _
  by_cases hall : value.all isVisible = true
  · have hbytes : ∀ b ∈ value, isVisible b = true := List.all_eq_true.1 hall
    have hascii : ∀ b ∈ value, b < 0x80 := fun b hb => (lowerByte_spec (hbytes b hb)).1
    rw [if_pos hall, Utf8.text?_of_ascii hascii, Option.some.injEq, eq_comm]
    exact (and_iff_right hbytes).symm
  · rw [if_neg hall]
    exact iff_of_false nofun fun h => hall (List.all_eq_true.2 h.1)

/-- A type in lower case mentions every word in lower case that it mentions in another case. -/
theorem typeMentions_typeLowered {h : Headers} {word : String}
    (hword : word.toList.map Char.toLower = word.toList) (hmentions : typeMentions h word = true) :
    typeMentions (typeLowered h) word = true := by
  unfold typeMentions at hmentions ⊢
  rw [first?_typeLowered]
  cases hfirst : h.first? "content-type" with
  | none => simp [hfirst] at hmentions
  | some value =>
    rw [hfirst, Option.bind_some, Option.any_eq_true] at hmentions
    obtain ⟨text, htext, hoccurs⟩ := hmentions
    obtain ⟨hvisible, rfl⟩ := visible?_eq_some_iff.1 htext
    have hlowered : Headers.visible? (value.map lowerByte) =
        some (String.ofList ((value.map fun b => Char.ofNat b.toNat).map Char.toLower)) := by
      rw [visible?_eq_some_iff]
      constructor
      · intro b hb
        obtain ⟨c, hc, rfl⟩ := List.mem_map.1 hb
        exact (lowerByte_spec (hvisible c hc)).2.1
      · rw [List.map_map, List.map_map]
        exact congrArg _ (List.map_congr_left fun b hb =>
          (lowerByte_spec (hvisible b hb)).2.2.symm)
    have hinfix : word.toList <:+: value.map fun b => Char.ofNat b.toNat := by
      simpa [Text.contains, Text.occurs_iff_infix] using hoccurs
    show ((Headers.visible? (value.map lowerByte)).any fun t => Text.contains t word) = true
    rw [hlowered, Option.any_some, Text.contains, Text.occurs_iff_infix, ← hword,
      String.toList_ofList]
    exact hinfix.map Char.toLower

/-! ### Moderation -/

/-- How a plain body is treated depends on the two words that its type may mention. -/
theorem treatment_eq_iff {h h' : Headers} (hplain : encoding? h = none)
    (hplain' : encoding? h' = none) :
    treatment h = treatment h' ↔
      typeMentions h "event-stream" = typeMentions h' "event-stream" ∧
        (typeMentions h "event-stream" = false →
          typeMentions h "json" = typeMentions h' "json") := by
  unfold treatment
  rw [hplain, hplain']
  cases typeMentions h "event-stream" <;> cases typeMentions h' "event-stream" <;>
    cases typeMentions h "json" <;> cases typeMentions h' "json" <;> simp

/-- The gate is one that the rule gets. -/
def IsGateOf (rule : Rule) (g : Gate σ) : Prop :=
  ∃ checkers w w', Gate.ofRule rule checkers w = .ok (some g, w')

/-- Two responses are moderated alike, whatever body they have, under every rule and gate and from
every state on: the checks leave the same world, in which a checker of any kind may note them, and
the client has the same status and body. -/
def IsModeratedAlike (r r' : Response) : Prop :=
  ∀ (σ : Type) (rule : Rule) (g : Gate σ), IsGateOf rule g →
    ∀ (body : List Arrival) (came : Nat) (s : State σ),
      let x := moderate rule g { r with body } came s
      let x' := moderate rule g { r' with body } came s
      x.1.world = x'.1.world ∧ x.2.status = x'.2.status ∧ x.2.body = x'.2.body

/-- So they are with the bodies that they have. -/
theorem IsModeratedAlike.body_eq (h : IsModeratedAlike r r') (hbody : r.body = r'.body)
    (hgate : IsGateOf rule g) (came : Nat) (s : State σ) :
    (moderate rule g r came s).2.body = (moderate rule g r' came s).2.body := by
  have hown : (moderate rule g r came s).2.body =
      (moderate rule g { r' with body := r.body } came s).2.body :=
    (h σ rule g hgate r.body came s).2.2
  rw [hown, hbody]

/-- Responses that are treated alike are moderated alike. -/
theorem isModeratedAlike_of_treatment (h : SameButCase r r')
    (htreatment : treatment r.headers = treatment r'.headers) : IsModeratedAlike r r' := by
  intro σ rule g _ body came s
  obtain ⟨status, reason, headers, pieces⟩ := r
  obtain ⟨status', reason', headers', pieces'⟩ := r'
  obtain ⟨rfl, rfl, -, rfl⟩ := h
  replace htreatment : treatment headers = treatment headers' := htreatment
  dsimp only
  unfold moderate
  rw [← htreatment]
  cases treatment headers with
  | encoded =>
    unfold moderateEncoded
    cases g.settings.failurePolicy <;> exact ⟨rfl, rfl, rfl⟩
  | stream => exact ⟨rfl, rfl, rfl⟩
  | document =>
    unfold moderateDocument
    dsimp only
    cases Arrival.collect body with
    | error message => exact ⟨rfl, rfl, rfl⟩
    | ok bytes =>
      unfold moderateBytes
      dsimp only
      split
      · exact ⟨rfl, rfl, rfl⟩
      · split <;> exact ⟨rfl, rfl, rfl⟩
  | other => exact ⟨rfl, rfl, rfl⟩

/-! ### Responses that are told apart -/

/-- The gate of a rule that checks every event. -/
def closedGate : Gate Rehearsal :=
  ⟨Interceptor.narrowSettings, refusesB, Gate.breakerKey "scripted" "chat", 0⟩

/-- The gateway with this gate. -/
def ready : State Rehearsal :=
  let breakers := (idle.world.breakers.getOrCreate closedGate.breakerName
    closedGate.settings.breaker idle.world.now).1
  { idle with world := { idle.world with breakers } }

theorem ofRule_closedRule :
    Gate.ofRule closedRule (CheckerRegistry.empty.register refusesB) idle.world =
      .ok (some closedGate, ready.world) := by
  have hmeant : CheckerRegistry.meant Interceptor.narrowSettings.vendor =
      Text.lowerAscii refusesB.vendor := by decide +kernel
  have hchecker : (CheckerRegistry.empty.register refusesB).get
      Interceptor.narrowSettings.vendor = .ok refusesB := by
    unfold CheckerRegistry.get
    rw [hmeant]
    simp [CheckerRegistry.register, CheckerRegistry.place, CheckerRegistry.empty]
  unfold Gate.ofRule closedRule
  dsimp only
  rw [hchecker]
  rfl

/-- A body that breaks off within a line. -/
def brokenOff : List Arrival := [.chunk [0x78], .failed "cut"]

/-- The status and the body that the client has when a body breaks off, by its treatment. -/
def brokenAnswer (status : Nat) : Treatment → Nat × List Arrival
  | .encoded => (503, [.chunk (Envelope.unavailable unsupportedEncoding).bytes])
  | .stream => (status, [.failed (Fault.backend "cut").message])
  | .document => (502, (proxyError 502 "Failed to read upstream response: cut").body)
  | .other => (status, brokenOff)

theorem moderate_brokenOff (r : Response) :
    let answer := (moderate closedRule closedGate { r with body := brokenOff } 0 ready).2
    (answer.status, answer.body) = brokenAnswer r.status (treatment r.headers) := by
  dsimp only
  unfold moderate
  dsimp only
  cases treatment r.headers <;> rfl

theorem brokenAnswer_inj {status : Nat} (hstatus : status < 300) {t t' : Treatment}
    (h : brokenAnswer status t = brokenAnswer status t') : t = t' := by
  cases t <;> cases t' <;> simp [brokenAnswer, brokenOff] at h ⊢ <;> omega

/-- Responses that are moderated alike are treated alike: the treatment of a body that breaks off
shows in what the client has of it. -/
theorem treatment_eq_of_isModeratedAlike (hstatus : r.status = r'.status)
    (hsuccess : r.isSuccess = true) (halike : IsModeratedAlike r r') :
    treatment r.headers = treatment r'.headers := by
  have hlt : r.status < 300 := of_decide_eq_true (Bool.and_eq_true_iff.1 hsuccess).2
  obtain ⟨-, hsame, hbody⟩ :=
    halike Rehearsal closedRule closedGate ⟨_, _, _, ofRule_closedRule⟩ brokenOff 0 ready
  have hright : _ = brokenAnswer r.status (treatment r'.headers) :=
    (moderate_brokenOff r').trans (by rw [hstatus])
  exact brokenAnswer_inj hlt ((moderate_brokenOff r).symm.trans
    ((Prod.ext hsame hbody).trans hright))

/-! ### The whole -/

/-- What the spelling of a type means for the moderation of a plain body. -/
structure HeedsCase (r r' : Response) : Prop where
  /-- Two spellings are moderated alike exactly if both mention event streams or neither does, and
  in the latter case both mention JSON or neither does. -/
  alike_iff : IsModeratedAlike r r' ↔
    typeMentions r.headers "event-stream" = typeMentions r'.headers "event-stream" ∧
      (typeMentions r.headers "event-stream" = false →
        typeMentions r.headers "json" = typeMentions r'.headers "json")
  /-- The spelling in lower case mentions both if any spelling does. -/
  lowered : ∀ word ∈ ["event-stream", "json"], typeMentions r.headers word = true →
    typeMentions (typeLowered r'.headers) word = true

/-- The letter case of a type counts only in the words that are looked for. -/
theorem heedsCase_moderate (hcase : SameButCase r r') (hplain : encoding? r.headers = none)
    (hsuccess : r.isSuccess = true) : HeedsCase r r' := by
  have hplain' : encoding? r'.headers = none := hcase.encoding? ▸ hplain
  constructor
  · rw [← treatment_eq_iff hplain hplain']
    exact ⟨treatment_eq_of_isModeratedAlike hcase.status hsuccess,
      isModeratedAlike_of_treatment hcase⟩
  · intro word hword hmentions
    have hlower : word.toList.map Char.toLower = word.toList := by
      have all : ∀ word ∈ ["event-stream", "json"],
          word.toList.map Char.toLower = word.toList := by decide
      exact all word hword
    rw [← hcase.headers]
    exact typeMentions_typeLowered hlower hmentions

/-- Two events under a type. -/
def events (type : String) : Response :=
  ⟨200, "OK", [("content-type", Utf8.ofText type)],
    [.chunk (deltaEvent "a"), .chunk (deltaEvent "b")]⟩

/-- The case of the other letters makes no difference. -/
theorem heedsCase_moderate_events :
    let r := events "text/event-stream"
    let r' := events "TEXT/event-stream"
    SameButCase r r' ∧ encoding? r.headers = none ∧ r.isSuccess = true ∧
      HeedsCase r r' ∧ IsModeratedAlike r r' := by
  intro r r'
  have hcase : SameButCase r r' := ⟨rfl, rfl, by decide +kernel, rfl⟩
  have hplain : encoding? r.headers = none := by decide +kernel
  have hheeds : HeedsCase r r' := heedsCase_moderate hcase hplain rfl
  exact ⟨hcase, hplain, rfl, hheeds, hheeds.alike_iff.2 (by decide +kernel)⟩

/-- Of a stream whose type has two capital letters the client has the event that is refused. -/
theorem letterCase_switches_off :
    let r := events "text/event-stream"
    let r' := events "Text/Event-Stream"
    SameButCase r r' ∧ encoding? r.headers = none ∧ r.isSuccess = true ∧
      IsGateOf closedRule closedGate ∧
      (moderate closedRule closedGate r 0 ready).2.body =
        [.chunk (deltaEvent "a"), .chunk (Envelope.responseViolation "found").bytes] ∧
      (moderate closedRule closedGate r' 0 ready).2.body =
        [.chunk (deltaEvent "a"), .chunk (deltaEvent "b")] ∧
      ¬ IsModeratedAlike r r' := by
  intro r r'
  have hmoderated : (moderate closedRule closedGate r 0 ready).2.body =
      [.chunk (deltaEvent "a"), .chunk (Envelope.responseViolation "found").bytes] := by
    decide +kernel
  have hpassed : (moderate closedRule closedGate r' 0 ready).2.body =
      [.chunk (deltaEvent "a"), .chunk (deltaEvent "b")] := by
    decide +kernel
  have hgate : IsGateOf closedRule closedGate := ⟨_, _, _, ofRule_closedRule⟩
  refine ⟨⟨rfl, rfl, by decide +kernel, rfl⟩, by decide +kernel, rfl, hgate, hmoderated, hpassed,
    fun halike => ?_⟩
  have hsame := halike.body_eq rfl hgate 0 ready
  rw [hmoderated, hpassed] at hsame
  revert hsame
  decide +kernel

end ModerationGateway.Gateway
