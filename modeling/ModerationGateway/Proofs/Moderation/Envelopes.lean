import ModerationGateway.Proofs.Chat.Events
import ModerationGateway.Proofs.Json.Fields
import ModerationGateway.Proofs.Moderation.Exchange

/-!
# Envelopes, written and read

Whatever a vendor gives as a reason, an envelope is one line, and what a client reads from it is the
envelope.

* `lineFeed_not_mem_bytes`, `space_le_of_mem_bytes`: an envelope is one line, without control
  characters;
* `normal_toJson`: the document that it is read as has its three fields only;
* `bind_ofBytes?_bytes`: it is read from that line again;
* `bytes_isOneDocument`: all this, for any code and any texts;
* `codeInRange_of_refusal?`: so it is with the envelopes of refusals.
-/

namespace ModerationGateway.Moderation.Envelope

open Json
open ModerationGateway.Stream (le_toNat_of_isVisible lineFeed lineFeed_not_mem_encode)

variable {e : Envelope}

theorem isPlain_toJson (h : codeInRange e.code) : IsPlain maxDepth e.toJson := by
  simp only [codeInRange, Bool.and_eq_true, decide_eq_true_eq] at h
  have hrange : InRange e.code := by
    constructor <;> omega
  exact ⟨hrange, trivial, trivial, trivial⟩

theorem lineFeed_not_mem_bytes (h : codeInRange e.code) : lineFeed ∉ e.bytes :=
  lineFeed_not_mem_encode (isVisible_render _ (isPlain_toJson h))

/-- No byte is a control character, whatever the texts hold. -/
theorem space_le_of_mem_bytes (h : codeInRange e.code) {b : UInt8} (hb : b ∈ e.bytes) : 0x20 ≤ b :=
  UInt8.le_iff_toNat_le.2 (le_toNat_of_isVisible (isVisible_render _ (isPlain_toJson h)) hb)

/-- The three fields, sorted by name. -/
theorem normal_toJson (e : Envelope) :
    e.toJson.normal = .object [("code", .number (.integer e.code)), ("detail", .string e.detail),
      ("msg", .string e.msg)] := by
  have hmsg : ¬"msg" < "code" := by decide
  have hdetail : ¬"detail" < "code" ∧ "detail" < "msg" := by decide
  simp [toJson, normal_object, sortedFields, normalFields, normal, insertField, hmsg, hdetail]

theorem isReadAs_code {code : Int} (h : codeInRange code) :
    IsReadAs code? (.number (.integer code)) code :=
  ⟨if_pos h, if_pos h⟩

theorem isReadAs_toJson (h : codeInRange e.code) : IsReadAs ofJson? e.toJson e := by
  refine isReadAs_object (show ["code", "msg", "detail"].Nodup by decide) fun r hr => ?_
  have hgiven := hr.given
  simp only [List.forall_mem_cons] at hgiven
  obtain ⟨hcode, hmsg, hdetail, -⟩ := hgiven
  simp only [ofJson?, record?, Option.bind_eq_bind, Option.bind_some,
    hcode.required? (isReadAs_code h), hmsg.required? (isReadAs_text _),
    hdetail.required? (isReadAs_text _)]

/-- An envelope is read again from its bytes. -/
theorem bind_ofBytes?_bytes (h : codeInRange e.code) : (ofBytes? e.bytes).bind ofJson? = some e :=
  Json.bind_ofBytes?_bytes (isPlain_toJson h) (isReadAs_toJson h)

/-- Whatever the code and the texts of an envelope are, its bytes are well-formed UTF-8 and one JSON
document, without control characters; the document is an object with the three fields and no others,
and the envelope is read from it again. -/
theorem bytes_isOneDocument (e : Envelope) (h : codeInRange e.code) :
    (∃ text, Utf8.text? e.bytes = some text ∧ ofText? text =
        some (.object [("code", .number (.integer e.code)), ("detail", .string e.detail),
          ("msg", .string e.msg)])) ∧
      (∀ b ∈ e.bytes, 0x20 ≤ b) ∧
      (ofBytes? e.bytes).bind ofJson? = some e := by
  refine ⟨⟨e.toJson.text, ?_, ?_⟩, fun b => space_le_of_mem_bytes h, bind_ofBytes?_bytes h⟩
  · rw [Utf8.text?, bytes, Json.bytes, Utf8.decode?_encode, Option.map_some, text]
  · rw [ofText?, text, String.toList_ofList, parse?_render (isPlain_toJson h), normal_toJson]

/-- A reason that tries to end its string, its line and its object. -/
def hostile : Envelope := ⟨-0x80000000, "\"\n\n\x00\\", "\\\",\"code\":0\x7d\r\n\x7b\x1f/é"⟩

theorem bytes_isOneDocument_hostile :
    codeInRange hostile.code = true ∧ (∀ b ∈ hostile.bytes, 0x20 ≤ b) ∧
      (ofBytes? hostile.bytes).bind ofJson? = some hostile := by
  have hcode : codeInRange hostile.code = true := rfl
  exact ⟨hcode, (bytes_isOneDocument hostile hcode).2⟩

/-- The codes of refusals are in range. -/
theorem codeInRange_of_refusal? {policy : FailurePolicy} {v : Verdict}
    (h : v.refusal? policy = some e) : codeInRange e.code := by
  rcases Verdict.refusal?_eq_some_iff.1 h with ⟨reason, _, -, rfl⟩ | ⟨-, _, code, -, rfl⟩
  · exact show codeInRange 1401 from rfl
  · exact show codeInRange 1503 from rfl

end ModerationGateway.Moderation.Envelope
