import Mathlib.Data.List.Forall2
import Mathlib.Data.List.ReduceOption
import ModerationGateway.Chat.Prompt
import ModerationGateway.Chat.Reply
import ModerationGateway.Proofs.Json.Fields

/-!
# Requests and answers, taken apart

A request is screened by its parts, and an answer in one piece is checked by its text. Both are said
here by the fields of the documents, and both are found again in documents that were written,
whatever characters their texts hold.

* `Content`, `HasContent`: the content of a message;
* `HasParts`, `hasParts_iff`: the parts of a request, which are those that it is screened by;
* `conversation`, `completion`, `isTakenApart`: requests that were written;
* `HasAnswer`, `messageContent?_eq_some_iff`: the text of an answer;
* `answer`, `hasAnswer_answer`: answers that were written.
-/

namespace ModerationGateway.Json

variable {o : Option Json} {fields : List (String × Json)}

theorem bind_string?_eq_some_iff {s : String} : o.bind string? = some s ↔ o = some (.string s) := by
  cases o with
  | none => simp
  | some j => cases j <;> simp [string?]

theorem bind_string?_eq_none_iff : o.bind string? = none ↔ ∀ s, o ≠ some (.string s) := by
  simp only [Option.eq_none_iff_forall_ne_some, ne_eq, bind_string?_eq_some_iff]

theorem bind_array?_eq_some_iff {items : List Json} :
    o.bind array? = some items ↔ o = some (.array items) := by
  cases o with
  | none => simp
  | some j => cases j <;> simp [array?]

theorem bind_array?_eq_none_iff : o.bind array? = none ↔ ∀ items, o ≠ some (.array items) := by
  simp only [Option.eq_none_iff_forall_ne_some, ne_eq, bind_array?_eq_some_iff]

/-- A field is found under its name also when the fields have been sorted. -/
theorem member?_normal_object {name : String} {value : Json} (h : (fields.map Prod.fst).Nodup)
    (hfield : (name, value) ∈ fields) :
    (Json.object fields).normal.member? name = some value.normal := by
  rw [normal_object, member?_object, lookup_sortedFields h, lookup_of_mem h hfield,
    Option.map_some]

theorem member?_normal_object_of_not_mem {name : String} (h : (fields.map Prod.fst).Nodup)
    (hname : name ∉ fields.map Prod.fst) : (Json.object fields).normal.member? name = none := by
  rw [normal_object, member?_object, lookup_sortedFields h, lookup_eq_none_of_not_mem hname,
    Option.map_none]

theorem normal_array (items : List Json) :
    (Json.array items).normal = .array (items.map normal) := by
  rw [normal, normalItems_eq_map]

theorem ofBytes?_bytes {j : Json} (h : IsPlain maxDepth j) : ofBytes? j.bytes = some j.normal := by
  rw [ofBytes?, bytes, Utf8.decode?_encode, Option.bind_some, parse?_render h]

end ModerationGateway.Json

namespace ModerationGateway.Chat

open ModerationGateway.Json

variable {body : Bytes} {parts : List String} {message : Json}

/-! ### The parts of a request -/

/-- The content of a message: a text, items of which some have a text, or anything else. -/
inductive Content where
  | text (t : String)
  | items (found : List (Option String))
  | other

/-- The texts of a content, in order. -/
def Content.texts : Content → List String
  | .text t => [t]
  | .items found => found.reduceOption
  | .other => []

/-- The text of an item is the string in its field of that name. -/
def HasText (item : Json) (found : Option String) : Prop :=
  ∀ t, found = some t ↔ item.member? "text" = some (.string t)

/-- The content of a message is what its field of that name holds. -/
inductive HasContent (message : Json) : Content → Prop where
  | text {t : String} (h : message.member? "content" = some (.string t)) :
      HasContent message (.text t)
  | items {items : List Json} {found : List (Option String)}
      (h : message.member? "content" = some (.array items))
      (hitems : List.Forall₂ HasText items found) : HasContent message (.items found)
  | other (htext : ∀ t, message.member? "content" ≠ some (.string t))
      (hitems : ∀ items, message.member? "content" ≠ some (.array items)) :
      HasContent message .other

/-- The parts of a request: the texts of its messages in order, else its prompt, else the body as it
is, decoded with replacements. -/
inductive HasParts (body : Bytes) : List String → Prop where
  | messages {j : Json} {messages : List Json} {contents : List Content}
      (hread : ofBytes? body = some j)
      (hmessages : j.member? "messages" = some (.array messages))
      (hcontents : List.Forall₂ HasContent messages contents) :
      HasParts body (contents.flatMap Content.texts)
  | prompt {j : Json} {t : String} (hread : ofBytes? body = some j)
      (hmessages : ∀ messages, j.member? "messages" ≠ some (.array messages))
      (hprompt : j.member? "prompt" = some (.string t)) : HasParts body [t]
  | document {j : Json} (hread : ofBytes? body = some j)
      (hmessages : ∀ messages, j.member? "messages" ≠ some (.array messages))
      (hprompt : ∀ t, j.member? "prompt" ≠ some (.string t)) :
      HasParts body [Utf8.textLossy body]
  | bytes (hread : ofBytes? body = none) : HasParts body [Utf8.textLossy body]

theorem hasText_iff {item : Json} {found : Option String} :
    HasText item found ↔ (item.member? "text").bind string? = found := by
  simp only [HasText, ← bind_string?_eq_some_iff]
  exact ⟨fun h => Option.ext fun t => (h t).symm, fun h t => by rw [h]⟩

theorem forall₂_hasText_iff {items : List Json} {found : List (Option String)} :
    List.Forall₂ HasText items found ↔
      items.map (fun item => (item.member? "text").bind string?) = found := by
  have heq : HasText = fun item found => (item.member? "text").bind string? = found :=
    funext₂ fun _ _ => propext hasText_iff
  rw [heq, ← List.forall₂_eq_eq_eq, List.forall₂_map_left_iff]

theorem HasContent.texts_eq {content : Content} (h : HasContent message content) :
    content.texts = messageParts message := by
  unfold messageParts
  cases h with
  | text h => simp only [h, Content.texts]
  | items h hitems =>
    simp only [h, Content.texts, ← forall₂_hasText_iff.1 hitems, List.reduceOption,
      List.filterMap_map, Function.id_comp]
  | other htext hitems =>
    split
    · exact absurd ‹_› (htext _)
    · exact absurd ‹_› (hitems _)
    · simp only [Content.texts]

theorem exists_hasContent (message : Json) : ∃ content, HasContent message content := by
  by_cases htext : ∃ t, message.member? "content" = some (.string t)
  · obtain ⟨t, htext⟩ := htext
    exact ⟨_, .text htext⟩
  by_cases hitems : ∃ items, message.member? "content" = some (.array items)
  · obtain ⟨items, hitems⟩ := hitems
    exact ⟨_, .items hitems (forall₂_hasText_iff.2 rfl)⟩
  · exact ⟨_, .other (not_exists.1 htext) (not_exists.1 hitems)⟩

theorem exists_forall₂_hasContent (messages : List Json) :
    ∃ contents, List.Forall₂ HasContent messages contents := by
  induction messages with
  | nil => exact ⟨[], .nil⟩
  | cons message messages ih =>
    obtain ⟨content, hcontent⟩ := exists_hasContent message
    obtain ⟨contents, hcontents⟩ := ih
    exact ⟨content :: contents, .cons hcontent hcontents⟩

theorem flatMap_texts_eq {messages : List Json} {contents : List Content}
    (h : List.Forall₂ HasContent messages contents) :
    contents.flatMap Content.texts = messages.flatMap messageParts := by
  induction h with
  | nil => rfl
  | cons hcontent _ ih => rw [List.flatMap_cons, List.flatMap_cons, hcontent.texts_eq, ih]

theorem HasParts.eq_parts (h : HasParts body parts) : parts = Chat.parts body := by
  unfold Chat.parts
  cases h with
  | messages hread hmessages hcontents =>
    simp only [hread, bind_array?_eq_some_iff.2 hmessages, flatMap_texts_eq hcontents]
  | prompt hread hmessages hprompt =>
    simp only [hread, bind_array?_eq_none_iff.2 hmessages, bind_string?_eq_some_iff.2 hprompt]
  | document hread hmessages hprompt =>
    simp only [hread, bind_array?_eq_none_iff.2 hmessages, bind_string?_eq_none_iff.2 hprompt]
  | bytes hread => simp only [hread]

theorem exists_hasParts (body : Bytes) : ∃ parts, HasParts body parts := by
  cases hread : ofBytes? body with
  | none => exact ⟨_, .bytes hread⟩
  | some j =>
    by_cases hmessages : ∃ messages, j.member? "messages" = some (.array messages)
    · obtain ⟨messages, hmessages⟩ := hmessages
      obtain ⟨contents, hcontents⟩ := exists_forall₂_hasContent messages
      exact ⟨_, .messages hread hmessages hcontents⟩
    rw [not_exists] at hmessages
    by_cases hprompt : ∃ t, j.member? "prompt" = some (.string t)
    · obtain ⟨t, hprompt⟩ := hprompt
      exact ⟨_, .prompt hread hmessages hprompt⟩
    · exact ⟨_, .document hread hmessages (not_exists.1 hprompt)⟩

/-- A request is screened by its parts. -/
theorem hasParts_iff : HasParts body parts ↔ parts = Chat.parts body := by
  refine ⟨HasParts.eq_parts, ?_⟩
  rintro rfl
  obtain ⟨parts, hparts⟩ := exists_hasParts body
  rwa [← hparts.eq_parts]

/-! ### Requests that were written -/

/-- The item of a text, or an item without one. -/
def itemDocument : Option String → Json
  | some t => .object [("type", .string "text"), ("text", .string t)]
  | none => .object [("type", .string "image_url")]

/-- The value that a content is written as. -/
def Content.document : Content → Json
  | .text t => .string t
  | .items found => .array (found.map itemDocument)
  | .other => .null

/-- A message, with the role of its sender. -/
structure Message where
  role : String
  content : Content

def Message.document (m : Message) : Json :=
  .object [("role", .string m.role), ("content", m.content.document)]

/-- A request with messages for some model. -/
def conversation (model : String) (messages : List Message) : Json :=
  .object [("model", .string model), ("messages", .array (messages.map Message.document))]

/-- A request with a prompt for some model. -/
def completion (model prompt : String) : Json :=
  .object [("model", .string model), ("prompt", .string prompt)]

theorem isPlain_itemDocument {depth : Nat} (found : Option String) :
    IsPlain (depth + 1) (itemDocument found) := by
  cases found <;> simp [itemDocument, IsPlain, HavePlain]

theorem isPlain_content {depth : Nat} (content : Content) :
    IsPlain (depth + 2) content.document := by
  cases content with
  | text t => trivial
  | items found => exact arePlain_map isPlain_itemDocument found
  | other => trivial

theorem isPlain_conversation (model : String) (messages : List Message) :
    IsPlain maxDepth (conversation model messages) := by
  refine ⟨trivial, arePlain_map (fun m => ?_) messages, trivial⟩
  exact ⟨trivial, isPlain_content m.content, trivial⟩

theorem isPlain_completion (model prompt : String) :
    IsPlain maxDepth (completion model prompt) :=
  ⟨trivial, trivial, trivial⟩

/-- An item is read as it was written. -/
theorem hasText_itemDocument (found : Option String) :
    HasText (itemDocument found).normal found := by
  rw [hasText_iff]
  cases found with
  | none =>
    have hmember : (itemDocument none).normal.member? "text" = none :=
      member?_normal_object_of_not_mem (by simp) (by simp)
    rw [hmember, Option.bind_none]
  | some t =>
    have hmember : (itemDocument (some t)).normal.member? "text" = some (Json.string t).normal :=
      member?_normal_object (by simp) (by simp)
    rw [hmember]
    rfl

/-- A message is read as it was written. -/
theorem hasContent_document (m : Message) : HasContent m.document.normal m.content := by
  have hmember : m.document.normal.member? "content" = some m.content.document.normal :=
    member?_normal_object (by simp) (by simp)
  cases hcontent : m.content with
  | text t =>
    rw [hcontent] at hmember
    exact .text hmember
  | items found =>
    rw [hcontent, Content.document, normal_array] at hmember
    refine .items hmember ?_
    rw [List.map_map, List.forall₂_map_left_iff, List.forall₂_same]
    exact fun f _ => hasText_itemDocument f
  | other =>
    rw [hcontent] at hmember
    exact .other (by simp [hmember, Content.document, normal])
      (by simp [hmember, Content.document, normal])

/-- The parts of a conversation are the texts of its messages. -/
theorem hasParts_conversation (model : String) (messages : List Message) :
    HasParts (conversation model messages).bytes (messages.flatMap fun m => m.content.texts) := by
  have hread := ofBytes?_bytes (isPlain_conversation model messages)
  have hmessages : (conversation model messages).normal.member? "messages" =
      some (.array ((messages.map Message.document).map normal)) := by
    rw [← normal_array]
    exact member?_normal_object (by simp) (by simp)
  have hcontents : List.Forall₂ HasContent ((messages.map Message.document).map normal)
      (messages.map Message.content) := by
    rw [List.map_map, List.forall₂_map_left_iff, List.forall₂_map_right_iff, List.forall₂_same]
    exact fun m _ => hasContent_document m
  have hparts := HasParts.messages hread hmessages hcontents
  rwa [List.flatMap_map] at hparts

/-- The only part of a prompt is that prompt. -/
theorem hasParts_completion (model prompt : String) :
    HasParts (completion model prompt).bytes [prompt] := by
  have hmessages : (completion model prompt).normal.member? "messages" = none :=
    member?_normal_object_of_not_mem (by simp) (by simp)
  have hprompt : (completion model prompt).normal.member? "prompt" =
      some (Json.string prompt).normal := member?_normal_object (by simp) (by simp)
  exact .prompt (ofBytes?_bytes (isPlain_completion model prompt)) (by simp [hmessages]) hprompt

/-- A text that is no document is its only part. -/
theorem hasParts_ofText {t : String} (h : parse? t.toList = none) :
    HasParts (Utf8.ofText t) [t] := by
  have hread : ofBytes? (Utf8.ofText t) = none := by
    rw [ofBytes?, Utf8.ofText, Utf8.decode?_encode, Option.bind_some, h]
  have hparts := HasParts.bytes hread
  rwa [Utf8.textLossy, Utf8.ofText, Utf8.decodeLossy_encode, String.ofList_toList] at hparts

/-- A request is taken apart in one way, and a request that was written into what it was written
from. -/
structure IsTakenApart (body : Bytes) : Prop where
  unique : ∃! parts, HasParts body parts
  conversation : ∀ model messages, body = (conversation model messages).bytes →
    HasParts body (messages.flatMap fun m => m.content.texts)
  completion : ∀ model prompt, body = (completion model prompt).bytes → HasParts body [prompt]
  text : ∀ t : String, body = Utf8.ofText t → parse? t.toList = none → HasParts body [t]

theorem isTakenApart (body : Bytes) : IsTakenApart body where
  unique := ⟨_, hasParts_iff.2 rfl, fun _ => HasParts.eq_parts⟩
  conversation := by
    rintro model messages rfl
    exact hasParts_conversation model messages
  completion := by
    rintro model prompt rfl
    exact hasParts_completion model prompt
  text := by
    rintro t rfl h
    exact hasParts_ofText h

/-! ### The text of an answer -/

/-- The first entry of a value: the first item of an array, or what an object has under `0`. -/
inductive HasFirst : Json → Json → Prop where
  | array (item : Json) (items : List Json) : HasFirst (.array (item :: items)) item
  | object {fields : List (String × Json)} {entry : Json} (h : fields.lookup "0" = some entry) :
      HasFirst (.object fields) entry

/-- The text of an answer is the string that is the content of the message of its first choice. -/
inductive HasAnswer (body : Bytes) (t : String) : Prop where
  | intro {j choices choice message : Json} (hread : ofBytes? body = some j)
      (hchoices : j.member? "choices" = some choices) (hchoice : HasFirst choices choice)
      (hmessage : choice.member? "message" = some message)
      (hcontent : message.member? "content" = some (.string t))

theorem first?_eq_some_iff {j entry : Json} : j.first? = some entry ↔ HasFirst j entry := by
  constructor
  · intro h
    unfold first? at h
    split at h
    · obtain rfl := Option.some.inj h
      exact .array _ _
    · exact .object h
    · contradiction
  · rintro (_ | h)
    · rfl
    · exact h

/-- The text that is read from an answer is its text. -/
theorem messageContent?_eq_some_iff {t : String} :
    messageContent? body = some t ↔ HasAnswer body t := by
  constructor
  · intro h
    simp only [messageContent?, choiceText?, Option.bind_eq_bind, Option.bind_eq_some_iff] at h
    obtain ⟨j, hread, choices, hchoices, choice, hchoice, message, hmessage, content, hcontent,
      htext⟩ := h
    refine ⟨hread, hchoices, first?_eq_some_iff.1 hchoice, hmessage, ?_⟩
    rwa [← bind_string?_eq_some_iff, hcontent]
  · rintro ⟨hread, hchoices, hchoice, hmessage, hcontent⟩
    simp only [messageContent?, choiceText?, Option.bind_eq_bind, Option.bind_some, hread, hchoices,
      first?_eq_some_iff.2 hchoice, hmessage, hcontent, string?]

/-! ### Answers that were written -/

/-- The message of an answer. -/
def answerMessage (t : String) : Json :=
  .object [("role", .string "assistant"), ("content", .string t)]

/-- The choice with that message. -/
def answerChoice (t : String) : Json :=
  .object [("index", .ofNat 0), ("message", answerMessage t)]

/-- An answer of some model in one piece. -/
def answer (model t : String) : Json :=
  .object [("model", .string model), ("choices", .array [answerChoice t])]

theorem isPlain_answer (model t : String) : IsPlain maxDepth (answer model t) := by
  simp [answer, answerChoice, answerMessage, maxDepth, IsPlain, ArePlain, HavePlain, Json.ofNat,
    InRange]

/-- An answer that was written has the text that it was written for. -/
theorem hasAnswer_answer (model t : String) : HasAnswer (answer model t).bytes t := by
  have hchoices : (answer model t).normal.member? "choices" =
      some (Json.array [answerChoice t]).normal := member?_normal_object (by simp) (by simp)
  have hmessage : (answerChoice t).normal.member? "message" = some (answerMessage t).normal :=
    member?_normal_object (by simp) (by simp)
  have hcontent : (answerMessage t).normal.member? "content" = some (Json.string t).normal :=
    member?_normal_object (by simp) (by simp)
  rw [normal_array] at hchoices
  exact .intro (ofBytes?_bytes (isPlain_answer model t)) hchoices (.array _ _) hmessage hcontent

end ModerationGateway.Chat
