import ModerationGateway.Gateway.Forward
import ModerationGateway.Moderation.Scripted
import ModerationGateway.Proofs.Chat.Documents
import ModerationGateway.Proofs.Gateway.Answers
import ModerationGateway.Proofs.Moderation.Coverage

/-!
# What a rule that fails closed withholds

A request under a rule that fails closed is screened before it is sent on, and a successful
response is moderated. Whatever the upstream answers and whatever the checker says, nothing that
was refused gets through.

* `screening`, `outcome_screening`: what screening comes to;
* `handle_of_gate`, `relay_of_success`: a request under a rule with a gate;
* `IsReplaced`, `IsWithheld`, `isWithheld_moderate`: what the client has of a successful response;
* `Withholds`, `handle_withholds`: the whole, for any request.
-/

namespace ModerationGateway.Gateway

open ModerationGateway.Http ModerationGateway.Moderation ModerationGateway.Stream
open ModerationGateway.Text

variable {σ : Type} {setup : Setup σ} {rule : Rule} {g : Gate σ} {r : Http.Request} {s : State σ}

/-! ### Requests -/

/-- What screening comes to under a rule with a gate, and the gateway after it. -/
def screening (setup : Setup σ) (rule : Rule) (g : Gate σ) (r : Http.Request) (s : State σ) :
    Screened × State σ :=
  let x := screen rule.sensitiveWords (some g.settings) r.body s.matchers setup.words
  let y := x.2.run g.judge s.world
  (y.1, { s with matchers := x.1, world := y.2 })

/-- What the word list of a rule finds in the prompt of a request. -/
def promptHits (setup : Setup σ) (rule : Rule) (r : Http.Request) (s : State σ) : List String :=
  (screenWords rule.sensitiveWords (Chat.prompt r.body) s.matchers setup.words).2

/-- What the checker says of the prompt of a request. -/
def promptVerdict (g : Gate σ) (r : Http.Request) (s : State σ) : Verdict :=
  (g.judge s.world ⟨.prompt, Chat.prompt r.body⟩).1

/-- A request is rejected for what the word list finds, or by the verdict on its prompt. -/
theorem outcome_screening :
    (screening setup rule g r s).1 =
      if isBlankText (Chat.prompt r.body).toList then .allowed
      else if promptHits setup rule r s ≠ [] then
        .rejected 400 (.sensitiveWords (promptHits setup rule r s))
      else resolvePrompt g.settings.failurePolicy (promptVerdict g r s) := by
  unfold screening screen promptHits
  dsimp only
  by_cases hblank : isBlankText (Chat.prompt r.body).toList = true
  · rw [if_pos hblank, if_pos hblank]
    rfl
  · rw [if_neg hblank, if_neg hblank]
    cases hwords : screenWords rule.sensitiveWords (Chat.prompt r.body) s.matchers setup.words with
    | mk cache hits =>
      cases hits with
      | nil => rfl
      | cons hit hits => rfl

/-- Under a policy that fails closed only a pass lets a prompt through. -/
theorem resolvePrompt_failClosed_eq_allowed_iff {v : Verdict} :
    resolvePrompt .failClosed v = .allowed ↔ v = .pass := by
  cases v <;> simp [resolvePrompt]

theorem outcome_screening_ne_allowed_iff (hclosed : g.settings.failurePolicy = .failClosed) :
    (screening setup rule g r s).1 ≠ .allowed ↔
      isBlankText (Chat.prompt r.body).toList = false ∧
        (promptHits setup rule r s ≠ [] ∨ promptVerdict g r s ≠ .pass) := by
  rw [outcome_screening, hclosed]
  by_cases hblank : isBlankText (Chat.prompt r.body).toList = true
  · simp [hblank]
  · by_cases hhits : promptHits setup rule r s = []
    · simp [hblank, hhits, resolvePrompt_failClosed_eq_allowed_iff]
    · simp [hblank, hhits]

/-- A request is answered by its rejection, or sent on. -/
theorem screened_eq (came : Nat) :
    screened setup rule (some g) r came s =
      match (screening setup rule g r s).1 with
      | .allowed => relay setup rule (some g) r came (screening setup rule g r s).2
      | .rejected status e =>
        (((screening setup rule g r s).2.count Stats.recordBlocked).answered came,
          enveloped status e) := rfl

/-- The gate of a rule has the settings of the rule. -/
theorem settings_ofRule {world world' : World σ} {checkers : CheckerRegistry σ}
    (hgate : Gate.ofRule rule checkers world = .ok (some g, world')) :
    rule.contentSecurity = some g.settings := by
  unfold Gate.ofRule at hgate
  cases hsettings : rule.contentSecurity with
  | none => simp [hsettings] at hgate
  | some settings =>
    rw [hsettings] at hgate
    dsimp only at hgate
    split at hgate
    next => contradiction
    next checker _ =>
      cases hgate
      rfl

/-- A rule with content security has a gate if its checker is to be had. -/
theorem exists_ofRule {world : World σ} {checkers : CheckerRegistry σ} {c : ContentSecurity}
    (hsettings : rule.contentSecurity = some c)
    (hchecker : (Gate.ofRule rule checkers world).isOk = true) :
    ∃ g world', Gate.ofRule rule checkers world = .ok (some g, world') := by
  unfold Gate.ofRule at hchecker ⊢
  rw [hsettings] at hchecker ⊢
  dsimp only at hchecker ⊢
  split at hchecker
  next => contradiction
  next => exact ⟨_, _, rfl⟩

/-- A request that is not too large, on a path whose rule has a gate. -/
theorem handle_of_gate {world : World σ}
    (hbody : r.body.length ≤ setup.config.proxy.maxBodySize.toNat)
    (hrule : setup.rules.resolve r.path = some rule)
    (hgate : Gate.ofRule rule setup.checkers s.world = .ok (some g, world)) :
    handle setup r s = screened setup rule (some g) r s.world.now { s with world } := by
  unfold handle
  rw [if_neg (Nat.not_lt.2 hbody), hrule]
  show underRule setup rule r s.world.now s = _
  unfold underRule
  rw [hgate]

/-- A successful response is moderated. -/
theorem relay_of_success {came : Nat} {response : Response} {s' : State σ}
    (hanswer : forward setup true r s = (.ok response, s')) (hsuccess : response.isSuccess = true) :
    relay setup rule (some g) r came s = moderate rule g response came s' := by
  unfold relay
  rw [Option.isSome_some, hanswer]
  simp [hsuccess]

/-! ### Responses -/

/-- In place of an answer in one piece whose text is refused the client has an envelope. -/
structure IsReplaced (g : Gate σ) (response : Response) (s : State σ) (content : String)
    (answer : Response) : Prop where
  blocked : ∀ reason vendor, (g.judge s.world ⟨.content, content⟩).1 = .block reason vendor →
    answer = enveloped response.status (.responseViolation reason)
  failed : ∀ message code, (g.judge s.world ⟨.content, content⟩).1 = .error message code →
    answer = enveloped 503 (.unavailable code)

/-- What the client has of a successful response: an answer that withholds what was refused. -/
structure IsWithheld (rule : Rule) (g : Gate σ) (response : Response) (s : State σ)
    (answer : Response) : Prop where
  /-- Of an encoded body the client has nothing. -/
  encoded : ∀ value, response.headers.first? "content-encoding" = some value →
    encodingName value ≠ "" → encodingName value ≠ "identity" →
      answer = enveloped 503 (.unavailable unsupportedEncoding)
  /-- Of a document whose text is refused the client has nothing. -/
  document : encoding? response.headers = none →
    typeMentions response.headers "event-stream" = false →
    typeMentions response.headers "json" = true →
    ∀ bytes content, Arrival.collect response.body = .ok bytes →
      Chat.HasAnswer bytes content → isBlankText content.toList = false →
        IsReplaced g response s content answer
  /-- So it is with a document that was written for a text, whatever characters the text holds. -/
  written : encoding? response.headers = none →
    typeMentions response.headers "event-stream" = false →
    typeMentions response.headers "json" = true →
    ∀ model content, Arrival.collect response.body = .ok (Chat.answer model content).bytes →
      isBlankText content.toList = false → IsReplaced g response s content answer
  /-- The checks of an event stream are those of the decisions on its rounds. -/
  checks : encoding? response.headers = none →
    typeMentions response.headers "event-stream" = true →
    (decisions rule g response s).map (·.round) =
        (Course.ofArrivals g.settings response.body).rounds ∧
      exchangesIn (decisions rule g response s) =
        (Interceptor.drain g.settings (Interceptor.attach g.settings (guardOf rule s))
          response.body).exchanges g.judge s.world
  /-- Of an event stream the client has the rounds before the one whose check is not a pass, and
  then the envelope. -/
  stream : encoding? response.headers = none →
    typeMentions response.headers "event-stream" = true →
    ∀ before d after, decisions rule g response s = before ++ d :: after →
      ∀ x ∈ d.exchanges, x.2 ≠ .pass →
        ∃ e, x.2.refusal? .failClosed = some e ∧
          answer.body = (before.flatMap fun d => d.round.raws).map .chunk ++ [.chunk e.bytes]

theorem isReplaced_moderate (hclosed : g.settings.failurePolicy = .failClosed)
    {response : Response} {bytes : Bytes} {content : String} (came : Nat)
    (hplain : encoding? response.headers = none)
    (hstream : typeMentions response.headers "event-stream" = false)
    (hdocument : typeMentions response.headers "json" = true)
    (hbytes : Arrival.collect response.body = .ok bytes) (hcontent : Chat.HasAnswer bytes content)
    (hblank : isBlankText content.toList = false) :
    IsReplaced g response s content (moderate rule g response came s).2 := by
  have hmoderate : (moderate rule g response came s).2 =
      (moderateBytes g response bytes came s).2 := by
    rw [moderate_of_document hplain hstream hdocument, moderateDocument, hbytes]
  have hreply := response_moderateBytes g response bytes came s
  simp only [Chat.messageContent?_eq_some_iff.2 hcontent, Option.getD_some, hblank,
    Bool.false_eq_true, if_false, hclosed] at hreply
  rw [hmoderate, hreply]
  constructor
  · intro reason vendor hverdict
    rw [hverdict]
    rfl
  · intro message code hverdict
    rw [hverdict]
    rfl

theorem isWithheld_moderate (hclosed : g.settings.failurePolicy = .failClosed)
    (response : Response) (came : Nat) :
    IsWithheld rule g response s (moderate rule g response came s).2 := by
  constructor
  · intro value hvalue hname hidentity
    have hencoded : encoding? response.headers ≠ none := by
      rw [Ne, encoding?_eq_none_iff]
      intro hplain
      rcases hplain value hvalue with hempty | hidentity'
      · exact hname hempty
      · exact hidentity hidentity'
    rw [moderate_of_encoded hencoded, moderateEncoded, hclosed]
  · intro hplain hstream hdocument bytes content hbytes hcontent hblank
    exact isReplaced_moderate hclosed came hplain hstream hdocument hbytes hcontent hblank
  · intro hplain hstream hdocument model content hbytes hblank
    exact isReplaced_moderate hclosed came hplain hstream hdocument hbytes
      (Chat.hasAnswer_answer model content) hblank
  · intro _ _
    exact decisions_spec rule g response s
  · intro hplain hstream before d after hds x hx hverdict
    obtain ⟨e, he⟩ := Verdict.exists_refusal_of_ne_pass hverdict
    refine ⟨e, he, ?_⟩
    rw [moderate_of_stream hplain hstream]
    exact body_moderateStream_of_refused hds hx (hclosed ▸ he)

/-! ### The whole -/

/-- What happens to a request on a path with a rule and a gate: nothing that was refused gets
through. -/
structure Withholds (setup : Setup σ) (rule : Rule) (g : Gate σ) (r : Http.Request) (s : State σ)
    (world : World σ) : Prop where
  /-- A request that is too large is answered by the gateway, whoever the upstream is. -/
  tooLarge : setup.config.proxy.maxBodySize.toNat < r.body.length → ∀ exchange,
    handle { setup with exchange } r s =
      (s.count Stats.recordError,
        proxyError 413 "Failed to read request body: length limit exceeded")
  /-- A request is rejected if the word list finds something, or the checker does not pass the
  prompt. -/
  rejects : (screening setup rule g r { s with world }).1 ≠ .allowed ↔
    isBlankText (Chat.prompt r.body).toList = false ∧
      (promptHits setup rule r { s with world } ≠ [] ∨
        promptVerdict g r { s with world } ≠ .pass)
  /-- A request that is rejected is answered by the gateway, whoever the upstream is, and leaves
  the world as screening did. -/
  rejected : r.body.length ≤ setup.config.proxy.maxBodySize.toNat →
    ∀ status e, (screening setup rule g r { s with world }).1 = .rejected status e →
      ∀ exchange, handle { setup with exchange } r s =
        ((((screening setup rule g r { s with world }).2.count Stats.recordBlocked).answered
          s.world.now), enveloped status e)
  /-- Of a successful response to any other request the client has what is not withheld. -/
  withheld : r.body.length ≤ setup.config.proxy.maxBodySize.toNat →
    (screening setup rule g r { s with world }).1 = .allowed →
    ∀ response s', forward setup true r (screening setup rule g r { s with world }).2 =
        (.ok response, s') → response.isSuccess = true →
      IsWithheld rule g response s' (handle setup r s).2

/-- A rule that fails closed withholds what was refused. -/
theorem handle_withholds {world : World σ} {c : ContentSecurity}
    (hrule : setup.rules.resolve r.path = some rule)
    (hsettings : rule.contentSecurity = some c) (hclosed : c.failurePolicy = .failClosed)
    (hgate : Gate.ofRule rule setup.checkers s.world = .ok (some g, world)) :
    Withholds setup rule g r s world := by
  have hg : g.settings.failurePolicy = .failClosed := by
    have hsame : c = g.settings := Option.some.inj (hsettings.symm.trans (settings_ofRule hgate))
    rw [← hsame, hclosed]
  constructor
  · intro hbody exchange
    unfold handle
    rw [if_pos hbody]
  · exact outcome_screening_ne_allowed_iff hg
  · intro hbody status e hrejected exchange
    have hscreened : handle { setup with exchange } r s =
        screened { setup with exchange } rule (some g) r s.world.now { s with world } :=
      handle_of_gate hbody hrule hgate
    have hsame : screening { setup with exchange } rule g r { s with world } =
        screening setup rule g r { s with world } := rfl
    rw [hscreened, screened_eq, hsame, hrejected]
  · intro hbody hallowed response s' hanswer hsuccess
    rw [handle_of_gate hbody hrule hgate, screened_eq, hallowed]
    show IsWithheld rule g response s' (relay setup rule (some g) r s.world.now _).2
    rw [relay_of_success hanswer hsuccess]
    exact isWithheld_moderate hg response s.world.now

/-- A rule that checks every event. -/
def closedRule : Rule := ⟨"chat", some Interceptor.narrowSettings, none⟩

/-- A checker that finds something in every text with a `b`. -/
def refusesB : Checker Rehearsal :=
  scripted "scripted" [⟨⟨some "b", none, none, none⟩, 0, .block "found"⟩]

/-- What an upstream answers: three events. -/
def threeEvents : Bytes :=
  Utf8.ofText "HTTP/1.1 200 OK\r\ncontent-type: text/event-stream\r\n\r\n" ++
    deltaEvent "a" ++ deltaEvent "b" ++ deltaEvent "c"

/-- A gateway in front of it. -/
def closedSetup : Setup Rehearsal :=
  let config : Config :=
    { Config.standard "words" with
      proxy := { ProxySettings.standard with backend := "http://[::1]" }
      routes := [⟨"/chat", "chat"⟩]
      rules := [closedRule] }
  .ofConfig config (.lists []) (CheckerRegistry.empty.register refusesB)
    fun _ _ rehearsal => (threeEvents, rehearsal)

/-- A request that asks nothing. -/
def emptyRequest : Http.Request := ⟨"POST", "/chat", [], []⟩

/-- The gateway has just started. -/
def idle : State Rehearsal := .start ⟨0, .empty, .start⟩

/-- An answer in one piece with a `b` that is written as an escape. -/
def escapedAnswer : Bytes :=
  Utf8.ofText "\x7b\"choices\":[\x7b\"message\":\x7b\"content\":\"\\u0062\"\x7d\x7d]\x7d"

/-- The same gateway in front of an upstream that answers in one piece. -/
def documentSetup : Setup Rehearsal :=
  { closedSetup with
    exchange := fun _ _ rehearsal =>
      (Utf8.ofText "HTTP/1.1 200 OK\r\ncontent-type: application/json\r\n\r\n" ++ escapedAnswer,
        rehearsal) }

/-- The client has the first event, and the envelope in place of the second and the third. In place
of the answer in one piece it has the envelope. -/
theorem handle_withholds_refusals :
    ∃ g world, closedSetup.rules.resolve emptyRequest.path = some closedRule ∧
      closedRule.contentSecurity = some Interceptor.narrowSettings ∧
      Interceptor.narrowSettings.failurePolicy = .failClosed ∧
      Gate.ofRule closedRule closedSetup.checkers idle.world = .ok (some g, world) ∧
      Withholds closedSetup closedRule g emptyRequest idle world ∧
      (handle closedSetup emptyRequest idle).2.body =
        [.chunk (deltaEvent "a"), .chunk (Envelope.responseViolation "found").bytes] ∧
      Withholds documentSetup closedRule g emptyRequest idle world ∧
      Chat.HasAnswer escapedAnswer "b" ∧
      (handle documentSetup emptyRequest idle).2.body =
        [.chunk (Envelope.responseViolation "found").bytes] := by
  have hrule : closedSetup.rules.resolve emptyRequest.path = some closedRule := by decide +kernel
  have hsettings : closedRule.contentSecurity = some Interceptor.narrowSettings := rfl
  obtain ⟨g, world, hgate⟩ : ∃ g world,
      Gate.ofRule closedRule closedSetup.checkers idle.world = .ok (some g, world) :=
    exists_ofRule hsettings (by decide +kernel)
  have hevents : Withholds closedSetup closedRule g emptyRequest idle world :=
    handle_withholds hrule hsettings rfl hgate
  have hdocument : Withholds documentSetup closedRule g emptyRequest idle world :=
    handle_withholds hrule hsettings rfl hgate
  exact ⟨g, world, hrule, hsettings, rfl, hgate, hevents, by decide +kernel, hdocument,
    Chat.messageContent?_eq_some_iff.1 (by decide +kernel), by decide +kernel⟩

end ModerationGateway.Gateway
