import ModerationGateway.Gateway.Moderated
import ModerationGateway.Proofs.Moderation.Session

/-!
# What a client has of a moderated response

A moderated response depends on the state of the gateway by the verdicts only.

* `encodingName`, `encoding?_eq_none_iff`: when a body counts as encoded;
* `moderate_of_encoded`, `moderate_of_stream`, `moderate_of_document`: how a response is moderated;
* `response_moderateBytes`: the response to a document, by the verdict on its text;
* `body_moderateStream`: the body of the response to an event stream, by the run of its rounds;
* `decisions`, `decisions_spec`: the decisions on these rounds, with all that is asked;
* `body_moderateStream_of_refused`: what is left of it when a verdict refuses.
-/

namespace ModerationGateway.Gateway

open ModerationGateway.Http ModerationGateway.Moderation ModerationGateway.Stream

variable {σ : Type} {rule : Rule} {g : Gate σ} {r : Response} {came : Nat} {s : State σ}

/-- The name of the encoding that a header value gives. -/
def encodingName (value : Bytes) : String :=
  Text.lowerAscii (Text.trimmed ((Headers.visible? value).getD "unknown"))

/-- A body is plain if no encoding is given, or the first one given is empty or `identity`. -/
theorem encoding?_eq_none_iff {h : Headers} :
    encoding? h = none ↔ ∀ value, h.first? "content-encoding" = some value →
      encodingName value = "" ∨ encodingName value = "identity" := by
  unfold encoding?
  cases h.first? "content-encoding" with
  | none => simp
  | some value => simp [encodingName, Decidable.or_iff_not_imp_left]

/-- An encoded body is not read. -/
theorem moderate_of_encoded (h : encoding? r.headers ≠ none) :
    moderate rule g r came s = moderateEncoded g r came s := by
  have hencoded : (encoding? r.headers).isSome = true := Option.isSome_iff_ne_none.2 h
  simp [moderate, treatment, hencoded]

theorem moderate_of_stream (hplain : encoding? r.headers = none)
    (hstream : typeMentions r.headers "event-stream" = true) :
    moderate rule g r came s = moderateStream rule g r came s := by
  simp [moderate, treatment, hplain, hstream]

theorem moderate_of_document (hplain : encoding? r.headers = none)
    (hstream : typeMentions r.headers "event-stream" = false)
    (hdocument : typeMentions r.headers "json" = true) :
    moderate rule g r came s = moderateDocument g r came s := by
  simp [moderate, treatment, hplain, hstream, hdocument]

/-- The response to a document: as it came, or what the verdict on its text puts in its place. -/
theorem response_moderateBytes (g : Gate σ) (r : Response) (bytes : Bytes) (came : Nat)
    (s : State σ) :
    let content := (Chat.messageContent? bytes).getD ""
    (moderateBytes g r bytes came s).2 =
      if Text.isBlankText content.toList then { passed r with body := [.chunk bytes] }
      else
        match resolveReply g.settings.failurePolicy r.status
          (g.judge s.world ⟨.content, content⟩).1 with
        | none => { passed r with body := [.chunk bytes] }
        | some (status, e) => enveloped status e := by
  intro content
  unfold moderateBytes
  dsimp only
  by_cases hblank : Text.isBlankText content.toList = true
  · rw [if_pos hblank, if_pos hblank]
  · rw [if_neg hblank, if_neg hblank]
    cases resolveReply g.settings.failurePolicy r.status
      (g.judge s.world ⟨.content, content⟩).1 with
    | none => rfl
    | some x => rfl

/-- The guard of an event stream. -/
def guardOf (rule : Rule) (s : State σ) : Guard := (s.active.register rule.id).2

/-- The body of the response to an event stream is what its rounds come to. -/
theorem body_moderateStream :
    (moderateStream rule g r came s).2.body =
      ((Course.ofArrivals g.settings r.body).items
        ((Interceptor.settled g.settings (guardOf rule s) r.body).run g.judge s.world).1).map
        pieceOf := by
  obtain ⟨hitems, -, -, -⟩ :=
    Interceptor.run_drain g.settings (guardOf rule s) r.body g.judge s.world
  rw [← hitems, guardOf, ← Interceptor.ofRequest_start]
  rfl

/-- The decisions on the rounds of an event stream. -/
def decisions (rule : Rule) (g : Gate σ) (r : Response) (s : State σ) : List Decision :=
  session g.judge g.settings (.ofGuard g.settings.windowSize.toNat (guardOf rule s)) s.world
    (Course.ofArrivals g.settings r.body).rounds

/-- There is a decision for each round, and all that is asked of the stream is asked by them. -/
theorem decisions_spec (rule : Rule) (g : Gate σ) (r : Response) (s : State σ) :
    (decisions rule g r s).map (·.round) = (Course.ofArrivals g.settings r.body).rounds ∧
      exchangesIn (decisions rule g r s) =
        (Interceptor.drain g.settings (Interceptor.attach g.settings (guardOf rule s))
          r.body).exchanges g.judge s.world := by
  constructor
  · exact map_round_session g.judge g.settings _ s.world _
  · rw [Interceptor.exchanges_drain]
    exact exchangesIn_session rfl _

/-- An event stream of which a verdict refuses a round: the client has the rounds before it, and
behind them the envelope. -/
theorem body_moderateStream_of_refused {before after : List Decision} {d : Decision}
    (hds : decisions rule g r s = before ++ d :: after) {x : Moderation.Exchange}
    (hx : x ∈ d.exchanges) {e : Envelope} (he : x.2.refusal? g.settings.failurePolicy = some e) :
    (moderateStream rule g r came s).2.body =
      (before.flatMap fun d => d.round.raws).map .chunk ++ [.chunk e.bytes] := by
  have hrefused := isRefused_of_session rfl hds hx he
  have hblocked : ((Interceptor.settled g.settings (guardOf rule s) r.body).run g.judge
      s.world).1.1.isBlocked = true := by
    unfold Request.isBlocked
    exact Option.isSome_iff_exists.2 ⟨_, hrefused.payload⟩
  rw [body_moderateStream, Course.items, hblocked, if_pos rfl, List.append_nil]
  have hreleased : ((Interceptor.settled g.settings (guardOf rule s) r.body).run g.judge
      s.world).1.2 = (before.flatMap fun d => d.round.raws) ++ [e.bytes] := hrefused.released
  rw [hreleased]
  simp [pieceOf, Function.comp_def]

end ModerationGateway.Gateway
