import ModerationGateway.Association
import ModerationGateway.Moderation.Vendor.Shumei
import ModerationGateway.Moderation.Vendor.Zkrj

/-!
# Replies of the vendors

A text may pass only on a decision that the vendor has stated. The form of a reply says when a
request was a success and where its decision stands, in terms of the fields alone; a reading that
fails closed gives a verdict for a success with a decision, and a fault for all else.

* `Json.Has`: the field of an object;
* `ReplyForm`, `ReplyForm.FailsClosed`: the form of a reply, and the readings of it that never
  invent a decision;
* `Shumei.failsClosed_interpret`: the one vendor is read so, whatever it replies;
* `Zkrj.IsSilent`, `Zkrj.failsClosed_iff`: the other is, unless the reply is silent, a success with
  data and no decision among it;
* `Zkrj.interpret_withCategory`: its reading does not depend on the category of the other phase;
* `failsClosed_unless_silent`: how far both readings fail closed;
* `Zkrj.nullReply`, `nullReply_passes`: a silent reply.
-/

namespace ModerationGateway

namespace Json

variable {j value : Json} {name other s : String} {n : Nat}

/-- An object that has the value under the name. -/
def Has (j : Json) (name : String) (value : Json) : Prop :=
  ∃ fields, j = .object fields ∧ fields.lookup name = some value

theorem member?_eq_some_iff : j.member? name = some value ↔ j.Has name value := by
  constructor
  · intro h
    cases j with
    | object fields => exact ⟨fields, rfl, h⟩
    | _ => cases h
  · rintro ⟨fields, rfl, h⟩
    exact h

theorem Has.unique {value' : Json} (h : j.Has name value) (h' : j.Has name value') :
    value = value' :=
  Option.some.inj ((member?_eq_some_iff.2 h).symm.trans (member?_eq_some_iff.2 h'))

theorem string?_eq_some_iff : j.string? = some s ↔ j = .string s := by
  cases j <;> simp [string?]

theorem natural?_eq_some_iff : j.natural? = some n ↔ j = ofNat n ∧ n < UInt64.size := by
  constructor
  · intro h
    unfold natural? at h
    split at h
    · split at h
      · rename_i hn
        cases h
        exact ⟨rfl, hn⟩
      · cases h
    · cases h
  · rintro ⟨rfl, hn⟩
    exact if_pos hn

theorem bind_member?_string? :
    (j.member? name).bind string? = some s ↔ j.Has name (.string s) := by
  rw [Option.bind_eq_some_iff]
  constructor
  · rintro ⟨value, hmember, hstring⟩
    exact string?_eq_some_iff.1 hstring ▸ member?_eq_some_iff.1 hmember
  · exact fun h => ⟨_, member?_eq_some_iff.2 h, rfl⟩

/-- The object with another value under a name, or with none. Other values have no fields. -/
def setMember (name : String) (value : Option Json) : Json → Json
  | .object fields =>
    match value with
    | some v => .object (put name v fields)
    | none => .object (take name fields)
  | j => j

theorem member?_setMember_of_ne (h : other ≠ name) (value : Option Json) (j : Json) :
    (j.setMember name value).member? other = j.member? other := by
  cases j with
  | object fields =>
    cases value with
    | none => exact lookup_take_of_ne h fields
    | some v => exact lookup_put_of_ne h v fields
  | _ => rfl

theorem Has.setMember (h : j.Has name value) (v : Json) :
    (j.setMember name (some v)).Has name v := by
  obtain ⟨fields, rfl, -⟩ := h
  exact ⟨_, rfl, lookup_put name v fields⟩

end Json

namespace Moderation

/-- The other side of the conversation. -/
def Phase.other : Phase → Phase
  | .prompt => .content
  | .content => .prompt

/-! ### Forms of replies -/

/-- The form in which a vendor replies. A reply states at most one decision. -/
structure ReplyForm where
  vendor : String
  /-- The code of the reply is that of success. -/
  Succeeded : Json → Prop
  /-- The reply states the decision. -/
  Decides : Json → String → Prop
  decides_unique : ∀ {body s t}, Decides body s → Decides body t → s = t
  /-- The decision passes a text. -/
  Passes : String → Prop

namespace ReplyForm

variable {F : ReplyForm} {body : Json} {r : Except Fault Verdict} {s : String} {v : Verdict}

/-- The reading gives a verdict exactly for a success that states a decision, a pass exactly for one
whose decision passes, a block in the name of the vendor, and otherwise a fault of the vendor. -/
structure FailsClosed (F : ReplyForm) (body : Json) (r : Except Fault Verdict) : Prop where
  answered_iff : (∃ v, r = .ok v) ↔ F.Succeeded body ∧ ∃ s, F.Decides body s
  pass_iff : r = .ok .pass ↔ F.Succeeded body ∧ ∃ s, F.Decides body s ∧ F.Passes s
  blocked : ∀ v, r = .ok v → v ≠ .pass → ∃ reason, v = .block reason F.vendor
  malformed : ∀ f, r = .error f → ∃ message, f = .malformedReply F.vendor message

theorem FailsClosed.of_decided (hs : F.Succeeded body) (hd : F.Decides body s)
    (hpass : v = .pass ↔ F.Passes s)
    (hblock : v ≠ .pass → ∃ reason, v = .block reason F.vendor) :
    F.FailsClosed body (.ok v) where
  answered_iff := iff_of_true ⟨v, rfl⟩ ⟨hs, s, hd⟩
  pass_iff := by
    rw [Except.ok.injEq, hpass]
    constructor
    · exact fun hp => ⟨hs, s, hd, hp⟩
    · rintro ⟨-, t, ht, hp⟩
      exact F.decides_unique ht hd ▸ hp
  blocked := by
    rintro _ ⟨⟩ hne
    exact hblock hne
  malformed := by
    rintro f ⟨⟩

theorem FailsClosed.of_undecided (h : ¬ (F.Succeeded body ∧ ∃ s, F.Decides body s))
    (message : String) : F.FailsClosed body (.error (.malformedReply F.vendor message)) where
  answered_iff := iff_of_false (fun ⟨_, hv⟩ => nomatch hv) h
  pass_iff := iff_of_false (fun hv => nomatch hv) fun ⟨hs, s, hd, _⟩ => h ⟨hs, s, hd⟩
  blocked := by
    rintro v ⟨⟩
  malformed := by
    rintro f ⟨⟩
    exact ⟨message, rfl⟩

end ReplyForm

/-! ### The vendor `shumei` -/

namespace Shumei

variable {body : Json} {level : String}

/-- The form of its replies: a number as code and the risk level as decision. -/
def form : ReplyForm where
  vendor := vendor
  Succeeded body := body.Has "code" (.ofNat successCode)
  Decides body level := body.Has "riskLevel" (.string level)
  decides_unique h h' := Json.string.inj (h.unique h')
  Passes level := level = passLevel

theorem code_eq_iff :
    (body.member? "code").bind Json.natural? = some successCode ↔ form.Succeeded body := by
  rw [Option.bind_eq_some_iff]
  constructor
  · rintro ⟨code, hcode, hnatural⟩
    obtain ⟨rfl, -⟩ := Json.natural?_eq_some_iff.1 hnatural
    exact Json.member?_eq_some_iff.1 hcode
  · exact fun h => ⟨_, Json.member?_eq_some_iff.2 h, by decide⟩

theorem judge_eq_pass_iff (description : Option String) :
    judge level description = .pass ↔ form.Passes level := by
  unfold judge
  split
  · exact iff_of_true rfl ‹_›
  · refine iff_of_false ?_ ‹_›
    cases description <;> exact fun h => nomatch h

theorem exists_judge_eq_block {description : Option String}
    (h : judge level description ≠ .pass) :
    ∃ reason, judge level description = .block reason vendor := by
  unfold judge at h ⊢
  split
  · exact absurd (if_pos ‹_›) h
  · cases description with
    | none => exact ⟨_, rfl⟩
    | some d => exact ⟨_, rfl⟩

/-- A verdict exactly on a stated risk level, whatever the vendor replies. -/
theorem failsClosed_interpret (body : Json) : form.FailsClosed body (interpret body) := by
  unfold interpret
  split
  · rename_i hcode
    refine .of_undecided (fun ⟨hs, _⟩ => ?_) _
    exact nomatch hcode.symm.trans (code_eq_iff.2 hs)
  · rename_i code hcode
    split
    · rename_i heq
      subst heq
      split
      · rename_i hlevel
        refine .of_undecided (fun ⟨_, level, hd⟩ => ?_) _
        exact nomatch hlevel.symm.trans (Json.bind_member?_string?.2 hd)
      · rename_i level hlevel
        exact .of_decided (code_eq_iff.1 hcode) (Json.bind_member?_string?.1 hlevel)
          (judge_eq_pass_iff _) exists_judge_eq_block
    · rename_i hne
      refine .of_undecided (fun ⟨hs, _⟩ => hne ?_) _
      exact Option.some.inj (hcode.symm.trans (code_eq_iff.2 hs))

end Shumei

/-! ### The vendor `zkrj` -/

namespace Zkrj

variable {body code data : Json} {phase : Phase} {category : String}

/-- The form of its replies about a phase: a text or a number as code and the category of the phase
as decision. -/
def form (phase : Phase) : ReplyForm where
  vendor := vendor
  Succeeded body := body.Has "code" (.string "200") ∨ body.Has "code" (.ofNat 200)
  Decides body category :=
    ∃ data, body.Has "data" data ∧ data.Has (categoryField phase) (.string category)
  decides_unique := by
    rintro body s t ⟨data, hdata, hs⟩ ⟨data', hdata', ht⟩
    cases hdata.unique hdata'
    exact Json.string.inj (hs.unique ht)
  Passes category := category ∉ blockingCategories

/-- A success with data among which the category of the phase is missing or not a text. -/
def IsSilent (phase : Phase) (body : Json) : Prop :=
  (form phase).Succeeded body ∧ (∃ data, body.Has "data" data) ∧
    ∀ category, ¬ (form phase).Decides body category

theorem succeeded?_eq_some_true_iff :
    succeeded? code = some true ↔ code = .string "200" ∨ code = .ofNat 200 := by
  cases code with
  | string s => simp [succeeded?, Json.ofNat]
  | number n =>
    rw [succeeded?, Option.some_inj, beq_iff_eq, Json.natural?_eq_some_iff]
    simp [show 200 < UInt64.size by decide]
  | _ => simp [succeeded?, Json.ofNat]

theorem succeeded_iff :
    (form phase).Succeeded body ↔
      ∃ code, body.member? "code" = some code ∧ succeeded? code = some true := by
  constructor
  · rintro (h | h)
    · exact ⟨_, Json.member?_eq_some_iff.2 h, succeeded?_eq_some_true_iff.2 (.inl rfl)⟩
    · exact ⟨_, Json.member?_eq_some_iff.2 h, succeeded?_eq_some_true_iff.2 (.inr rfl)⟩
  · rintro ⟨code, hcode, hs⟩
    rcases succeeded?_eq_some_true_iff.1 hs with rfl | rfl
    · exact .inl (Json.member?_eq_some_iff.1 hcode)
    · exact .inr (Json.member?_eq_some_iff.1 hcode)

/-- The three ways to read a reply. -/
theorem interpret_cases (body : Json) (phase : Phase) :
    (¬ (form phase).Succeeded body ∧ ∃ message, interpret body phase = .error (malformed message)) ∨
    (body.member? "data" = none ∧ ∃ message, interpret body phase = .error (malformed message)) ∨
    ∃ data, (form phase).Succeeded body ∧ body.Has "data" data ∧
      interpret body phase = .ok (judge (textOf data (categoryField phase))) := by
  unfold interpret
  split
  · rename_i hcode
    exact .inl ⟨fun hs => by simp [succeeded_iff, hcode] at hs, _, rfl⟩
  · rename_i code hcode
    split
    · rename_i hs
      exact .inl ⟨fun h => by simp [succeeded_iff, hcode, hs] at h, _, rfl⟩
    · rename_i hs
      exact .inl ⟨fun h => by simp [succeeded_iff, hcode, hs] at h, _, rfl⟩
    · rename_i hs
      split
      · rename_i hdata
        exact .inr (.inl ⟨hdata, _, rfl⟩)
      · rename_i data hdata
        exact .inr (.inr ⟨data, succeeded_iff.2 ⟨code, hcode, hs⟩,
          Json.member?_eq_some_iff.1 hdata, rfl⟩)

theorem judge_eq_pass_iff : judge category = .pass ↔ (form phase).Passes category := by
  unfold judge form
  split <;> simp_all

theorem exists_judge_eq_block (h : judge category ≠ .pass) :
    ∃ reason, judge category = .block reason vendor := by
  unfold judge at h ⊢
  split
  · exact ⟨_, rfl⟩
  · exact absurd (if_neg ‹_›) h

theorem textOf_of_has {name : String} (h : data.Has name (.string category)) :
    textOf data name = category := by
  rw [textOf, Json.bind_member?_string?.2 h, Option.getD_some]

theorem textOf_eq_empty {name : String} (h : ∀ s, ¬ data.Has name (.string s)) :
    textOf data name = "" := by
  have hnone : (data.member? name).bind Json.string? = none :=
    Option.eq_none_iff_forall_ne_some.2 fun s hs => h s (Json.bind_member?_string?.1 hs)
  rw [textOf, hnone, Option.getD_none]

/-- A silent reply passes the text. -/
theorem IsSilent.interpret_eq (h : IsSilent phase body) : interpret body phase = .ok .pass := by
  obtain ⟨hs, ⟨data, hdata⟩, hnone⟩ := h
  rcases interpret_cases body phase with ⟨hfail, -⟩ | ⟨hmissing, -⟩ | ⟨data', -, hdata', hread⟩
  · exact absurd hs hfail
  · exact nomatch hmissing.symm.trans (Json.member?_eq_some_iff.2 hdata)
  · rw [hread, textOf_eq_empty fun s hcategory => hnone s ⟨data', hdata', hcategory⟩]
    rfl

theorem failsClosed_of_not_isSilent (h : ¬ IsSilent phase body) :
    (form phase).FailsClosed body (interpret body phase) := by
  rcases interpret_cases body phase with
    ⟨hfail, message, hread⟩ | ⟨hmissing, message, hread⟩ | ⟨data, hs, hdata, hread⟩
  · rw [hread]
    exact .of_undecided (fun hdone => hfail hdone.1) message
  · rw [hread]
    refine .of_undecided ?_ message
    rintro ⟨-, -, data, hdata, -⟩
    exact nomatch hmissing.symm.trans (Json.member?_eq_some_iff.2 hdata)
  · by_cases hdecides : ∃ category, (form phase).Decides body category
    · obtain ⟨category, data', hdata', hcategory⟩ := hdecides
      cases hdata.unique hdata'
      rw [hread, textOf_of_has hcategory]
      exact .of_decided hs ⟨data, hdata, hcategory⟩ judge_eq_pass_iff exists_judge_eq_block
    · exact absurd ⟨hs, ⟨data, hdata⟩, not_exists.1 hdecides⟩ h

/-- The reading fails closed exactly for the replies that are not silent. -/
theorem failsClosed_iff :
    (form phase).FailsClosed body (interpret body phase) ↔ ¬ IsSilent phase body := by
  refine ⟨fun hclosed hsilent => ?_, failsClosed_of_not_isSilent⟩
  obtain ⟨-, s, hs⟩ := hclosed.answered_iff.1 ⟨_, hsilent.interpret_eq⟩
  exact hsilent.2.2 s hs

/-! ### The category of the other phase -/

/-- The reply with another value as the category of a phase, or with none. -/
def withCategory (phase : Phase) (value : Option Json) (body : Json) : Json :=
  match body.member? "data" with
  | none => body
  | some data => body.setMember "data" (some (data.setMember (categoryField phase) value))

theorem member?_withCategory_of_ne {name : String} (h : name ≠ "data") (value : Option Json)
    (body : Json) : (withCategory phase value body).member? name = body.member? name := by
  unfold withCategory
  split
  · rfl
  · exact Json.member?_setMember_of_ne h _ body

theorem member?_data_withCategory (value : Option Json) (body : Json) :
    (withCategory phase value body).member? "data" =
      (body.member? "data").map fun data => data.setMember (categoryField phase) value := by
  unfold withCategory
  split
  · rename_i hdata
    rw [hdata, Option.map_none]
  · rename_i data hdata
    rw [hdata, Option.map_some]
    exact Json.member?_eq_some_iff.2 ((Json.member?_eq_some_iff.1 hdata).setMember _)

theorem categoryField_other_ne (phase : Phase) :
    categoryField phase ≠ categoryField phase.other := by
  cases phase <;> decide

/-- The reading of a reply about a phase does not depend on the category of the other phase. -/
theorem interpret_withCategory (phase : Phase) (value : Option Json) (body : Json) :
    interpret (withCategory phase.other value body) phase = interpret body phase := by
  have hcategory : ∀ data : Json,
      textOf (data.setMember (categoryField phase.other) value) (categoryField phase) =
        textOf data (categoryField phase) := fun data => by
    rw [textOf, Json.member?_setMember_of_ne (categoryField_other_ne phase), textOf]
  have hmsg : textOf (withCategory phase.other value body) "msg" = textOf body "msg" := by
    rw [textOf, member?_withCategory_of_ne (by decide), textOf]
  rw [interpret, member?_withCategory_of_ne (by decide), hmsg, member?_data_withCategory, interpret]
  cases body.member? "data" with
  | none => rfl
  | some data =>
    rw [Option.map_some]
    simp only [hcategory]

end Zkrj

/-- Replies are read so that nothing passes without a decision, with one exception: a reply of
`zkrj` that is a success with data but without a category for the phase passes the text. What the
reply says about the other phase does not matter. -/
theorem failsClosed_unless_silent (body : Json) (phase : Phase) :
    Shumei.form.FailsClosed body (Shumei.interpret body) ∧
      ((Zkrj.form phase).FailsClosed body (Zkrj.interpret body phase) ↔
        ¬ Zkrj.IsSilent phase body) ∧
      (Zkrj.IsSilent phase body → Zkrj.interpret body phase = .ok .pass) ∧
      ∀ value, Zkrj.interpret (Zkrj.withCategory phase.other value body) phase =
        Zkrj.interpret body phase :=
  ⟨Shumei.failsClosed_interpret body, Zkrj.failsClosed_iff, Zkrj.IsSilent.interpret_eq,
    fun value => Zkrj.interpret_withCategory phase value body⟩

/-- A success without anything in its data. -/
def Zkrj.nullReply : Json := .object [("code", .string "200"), ("data", .null)]

/-- A success whose data is null passes a text about which nothing was decided. -/
theorem nullReply_passes :
    Zkrj.interpret Zkrj.nullReply .content = .ok .pass ∧
      ¬ (Zkrj.form .content).FailsClosed Zkrj.nullReply
        (Zkrj.interpret Zkrj.nullReply .content) := by
  have hpass : Zkrj.interpret Zkrj.nullReply .content = .ok .pass := rfl
  refine ⟨hpass, fun hclosed => ?_⟩
  obtain ⟨-, category, data, ⟨fields, hbody, hdata⟩, inner, rfl, -⟩ :=
    hclosed.answered_iff.1 ⟨.pass, hpass⟩
  cases hbody
  exact nomatch hdata

end Moderation
end ModerationGateway
