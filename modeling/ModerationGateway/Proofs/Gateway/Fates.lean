import ModerationGateway.Gateway.Forward
import ModerationGateway.Proofs.Gateway.Answers
import ModerationGateway.Proofs.Moderation.Fleet

/-!
# What becomes of a request

The gateway answers a request in one of a few ways, and counts on the way. A fate says which way it
was, and what is to be found in the counts for it.

* `InFlight.release_register`: a request that has come and gone again;
* `Fate`, `Fate.answer`, `Fate.envelope?`: what becomes of a request, and what the client has;
* `Fate.isUnrecorded`, `Fate.isFailure`, `Fate.isRefusal`, `Fate.isCut`: what is counted of it;
* `fate`: what becomes of a request, by what the parties to it decide;
* `Records`, `records_handle`: the gateway answers and counts accordingly.
-/

namespace ModerationGateway.Stream.InFlight

variable {r : InFlight}

/-- No request in flight has a name that is yet to be given. -/
def IsNumbered (r : InFlight) : Prop := ∀ entry ∈ r.entries, entry.1 < r.nextId

theorem isNumbered_empty : empty.IsNumbered := fun _ hentry => absurd hentry List.not_mem_nil

/-- A guard that was just given and is let go leaves only what is counted. -/
theorem release_register (h : r.IsNumbered) (rule : String) (isBlocked : Bool) :
    (r.register rule).1.release ⟨r.nextId, isBlocked⟩ =
      ⟨r.entries, r.nextId + 1, r.finished + 1, r.blocked + if isBlocked then 1 else 0⟩ := by
  have hcontains : (r.register rule).1.contains r.nextId = true :=
    contains_iff.2 ⟨rule, List.mem_append_right _ List.mem_cons_self⟩
  have hothers : ∀ entry ∈ r.entries, (entry.1 != r.nextId) = true := fun entry hentry => by
    have hlt := h entry hentry
    simp only [bne_iff_ne]
    exact Nat.ne_of_lt hlt
  rw [release_of_contains hcontains]
  simp only [register, List.filter_append, List.filter_eq_self.2 hothers]
  simp

end ModerationGateway.Stream.InFlight

namespace ModerationGateway.Gateway

open ModerationGateway.Http ModerationGateway.Moderation ModerationGateway.Stream

variable {σ : Type}

/-! ### Fates -/

/-- What becomes of a request. -/
inductive Fate where
  /-- Its body is too large. -/
  | oversized
  /-- The checker of its rule is not to be had, and the rule fails closed. -/
  | unguarded (code : String)
  /-- It is rejected before it is sent on. -/
  | rejected (status : Nat) (e : Envelope)
  /-- The upstream is not reached. The path has a rule or has none. -/
  | unreached (hasRule : Bool) (f : Failure)
  /-- The client has the response of the upstream. -/
  | passed (answer : Response)
  /-- The response breaks off before it can be checked. -/
  | unread (message : String)
  /-- The client has an envelope in place of the response. -/
  | replaced (status : Nat) (e : Envelope)
  /-- The client has a stream, until a verdict on it refuses. -/
  | streamed (answer : Response) (refusal : Option Envelope)

namespace Fate

/-- The answer to the client. -/
def answer : Fate → Response
  | oversized => proxyError 413 "Failed to read request body: length limit exceeded"
  | unguarded code => enveloped 503 (.unavailable code)
  | rejected status e => enveloped status e
  | unreached _ f => unreachable f
  | passed answer => answer
  | unread message => proxyError 502 ("Failed to read upstream response: " ++ message)
  | replaced status e => enveloped status e
  | streamed answer _ => answer

/-- The envelope of the gateway that the client has, as the whole answer or at the end of a
stream. -/
def envelope? : Fate → Option Envelope
  | unguarded code => some (.unavailable code)
  | rejected _ e => some e
  | replaced _ e => some e
  | streamed _ refusal => refusal
  | _ => none

/-- The gateway refuses to answer without a checker. -/
def isUnguarded : Fate → Bool
  | unguarded _ => true
  | _ => false

/-- The gateway has returned early, without a record of the request. -/
def isUnrecorded : Fate → Bool
  | oversized => true
  | unguarded _ => true
  | unreached hasRule _ => hasRule
  | _ => false

/-- Something has failed. -/
def isFailure : Fate → Bool
  | oversized => true
  | unguarded _ => true
  | unreached _ _ => true
  | unread _ => true
  | _ => false

/-- Something was refused. -/
def isRefusal : Fate → Bool
  | rejected _ _ => true
  | replaced _ _ => true
  | streamed _ refusal => refusal.isSome
  | _ => false

/-- The client has a stream. -/
def isStreamed : Fate → Bool
  | streamed _ _ => true
  | _ => false

/-- A stream was refused. -/
def isCut (f : Fate) : Bool := f.isStreamed && f.isRefusal

end Fate

/-! ### Deciding on a fate -/

/-- The verdicts on an event stream, in order. -/
def verdictsOn (rule : Rule) (g : Gate σ) (r : Response) (s : State σ) :
    List Moderation.Exchange :=
  (Interceptor.drain g.settings (Interceptor.attach g.settings (guardOf rule s)) r.body).exchanges
    g.judge s.world

/-- A stream is refused by the first verdict on it that refuses. -/
def streamFate (rule : Rule) (g : Gate σ) (r : Response) (s : State σ) : Fate :=
  let drained := (Interceptor.drain g.settings (Interceptor.attach g.settings (guardOf rule s))
    r.body).run g.judge s.world
  .streamed
    { r with
      headers := (forwardable r.headers).set "cache-control" "no-cache"
      body := drained.1.1.map pieceOf }
    (firstRefusal? g.settings.failurePolicy (verdictsOn rule g r s))

/-- A document is replaced by the verdict on its text. -/
def documentFate (g : Gate σ) (r : Response) (s : State σ) : Fate :=
  match Arrival.collect r.body with
  | .error message => .unread message
  | .ok bytes =>
    let content := (Chat.messageContent? bytes).getD ""
    let whole : Response := { passed r with body := [.chunk bytes] }
    if Text.isBlankText content.toList then .passed whole
    else
      match resolveReply g.settings.failurePolicy r.status
        (g.judge s.world ⟨.content, content⟩).1 with
      | none => .passed whole
      | some (status, e) => .replaced status e

/-- A response under a rule with a gate. -/
def moderatedFate (rule : Rule) (g : Gate σ) (r : Response) (s : State σ) : Fate :=
  match treatment r.headers with
  | .encoded =>
    match g.settings.failurePolicy with
    | .failOpen => .passed (passed r)
    | .failClosed => .replaced 503 (.unavailable unsupportedEncoding)
  | .stream => streamFate rule g r s
  | .document => documentFate g r s
  | .other => .passed (passed r)

/-- A request that is sent on. -/
def relayFate (setup : Setup σ) (rule : Rule) (gate : Option (Gate σ)) (r : Http.Request)
    (s : State σ) : Fate :=
  match forward setup gate.isSome r s with
  | (.error f, _) => .unreached true f
  | (.ok response, s) =>
    match gate with
    | none => .passed (passed response)
    | some g =>
      if response.isSuccess then moderatedFate rule g response s else .passed (passed response)

/-- A request that is screened. -/
def screenedFate (setup : Setup σ) (rule : Rule) (gate : Option (Gate σ)) (r : Http.Request)
    (s : State σ) : Fate :=
  let (matchers, screening) :=
    screen rule.sensitiveWords (gate.map (·.settings)) r.body s.matchers setup.words
  let (outcome, world) := screening.run (Gate.judgeOf gate) s.world
  match outcome with
  | .allowed => relayFate setup rule gate r { s with matchers, world }
  | .rejected status e => .rejected status e

/-- A request on a path with a rule. -/
def ruledFate (setup : Setup σ) (rule : Rule) (r : Http.Request) (s : State σ) : Fate :=
  match Gate.ofRule rule setup.checkers s.world with
  | .ok (gate, world) => screenedFate setup rule gate r { s with world }
  | .error fault =>
    match policyOf rule with
    | .failOpen => screenedFate setup rule none r s
    | .failClosed => .unguarded fault.code

/-- A request on a path without a rule. -/
def bypassFate (setup : Setup σ) (r : Http.Request) (s : State σ) : Fate :=
  match (forward setup false r s).1 with
  | .ok response => .passed (passed response)
  | .error f => .unreached false f

/-- Any request. -/
def fate (setup : Setup σ) (r : Http.Request) (s : State σ) : Fate :=
  if setup.config.proxy.maxBodySize.toNat < r.body.length then .oversized
  else
    match setup.rules.resolve r.path with
    | none => bypassFate setup r s
    | some rule => ruledFate setup rule r s

/-! ### The books -/

/-- No request is in flight that was not before, and one more is counted if it was a stream that
was refused. -/
structure Releases (before after : InFlight) (f : Fate) : Prop where
  cut : after.blocked = before.blocked + if f.isCut then 1 else 0
  entries : after.entries = before.entries
  numbered : after.IsNumbered

/-- The answer is that of a fate, and the books say so. -/
structure Records (s : State σ) (f : Fate) (x : State σ × Response) : Prop where
  answer : x.2 = f.answer
  requests : x.1.stats.requests = s.stats.requests + if f.isUnrecorded then 0 else 1
  errors : x.1.stats.errors = s.stats.errors + if f.isFailure then 1 else 0
  blocked : x.1.stats.blocked = s.stats.blocked + if f.isRefusal then 1 else 0
  active : s.active.IsNumbered → Releases s.active x.1.active f
  /-- A stream that was refused ends with the envelope. -/
  payload : ∀ answer e, f = .streamed answer (some e) →
    answer.body.getLast? = some (.chunk e.bytes)

variable {setup : Setup σ} {rule : Rule} {g : Gate σ} {s : State σ} {f : Fate}
  {x : State σ × Response}

/-- Only the books before matter. -/
theorem Records.congr (h : Records s f x) {s' : State σ} (hstats : s'.stats = s.stats)
    (hactive : s'.active = s.active) : Records s' f x := by
  obtain ⟨hanswer, hrequests, herrors, hblocked, hreleases, hpayload⟩ := h
  constructor <;> simp_all

/-- Without a stream no request is entered, and all is to be read off. -/
theorem Records.ofUnstreamed (hf : f.isStreamed = false) (hactive : x.1.active = s.active)
    (hanswer : x.2 = f.answer)
    (hrequests : x.1.stats.requests = s.stats.requests + if f.isUnrecorded then 0 else 1)
    (herrors : x.1.stats.errors = s.stats.errors + if f.isFailure then 1 else 0)
    (hblocked : x.1.stats.blocked = s.stats.blocked + if f.isRefusal then 1 else 0) :
    Records s f x := by
  refine ⟨hanswer, hrequests, herrors, hblocked, fun h => ?_, fun answer e hfate => ?_⟩
  · rw [hactive]
    exact ⟨by simp [Fate.isCut, hf], rfl, h⟩
  · rw [hfate] at hf
    contradiction

/-! ### Streams -/

/-- The request of a stream is blocked by the first verdict that refuses, and the guard knows. -/
theorem isMarked_settled (rule : Rule) (g : Gate σ) (r : Response) (s : State σ) :
    IsMarked g.settings.failurePolicy s.active.nextId (verdictsOn rule g r s)
      ((Interceptor.settled g.settings (guardOf rule s) r.body).run g.judge s.world).1.1 := by
  have hmarked := ((IsMarked.ofGuard g.settings.failurePolicy g.settings.windowSize.toNat
    s.active.nextId).settleAll (Course.ofArrivals g.settings r.body).rounds).run g.judge s.world
  rw [List.nil_append] at hmarked
  rw [verdictsOn, Interceptor.exchanges_drain]
  exact hmarked

@[simp] theorem requests_countReports (n : Nat) (stats : Stats) :
    (countReports n stats).requests = stats.requests := by
  induction n with
  | zero => rfl
  | succ n ih => exact ih

@[simp] theorem errors_countReports (n : Nat) (stats : Stats) :
    (countReports n stats).errors = stats.errors := by
  induction n with
  | zero => rfl
  | succ n ih => exact ih

@[simp] theorem blocked_countReports (n : Nat) (stats : Stats) :
    (countReports n stats).blocked = stats.blocked + n := by
  induction n with
  | zero => rfl
  | succ n ih => exact congrArg (· + 1) ih

/-- A stream that is refused ends with the envelope of the first verdict that refuses. -/
theorem getLast?_of_refused {response : Response} {e : Envelope}
    (h : firstRefusal? g.settings.failurePolicy (verdictsOn rule g response s) = some e) :
    ((Interceptor.drain g.settings (Interceptor.attach g.settings (guardOf rule s))
      response.body).run g.judge s.world).1.1.getLast? = some (.ok e.bytes) := by
  obtain ⟨hitems, -, -, -⟩ :=
    Interceptor.run_drain g.settings (guardOf rule s) response.body g.judge s.world
  have hpayload := (isMarked_settled rule g response s).payload
  rw [h] at hpayload
  obtain ⟨before, _, _, e', -, he', hno⟩ := exists_isRefused_settleAll rfl hpayload
  have hblocked : ((Interceptor.settled g.settings (guardOf rule s) response.body).run g.judge
      s.world).1.1.isBlocked = true := by
    rw [Stream.Request.isBlocked, hpayload]
    rfl
  rw [hitems, Course.items, if_pos hblocked, List.append_nil, Interceptor.settled, hno.released,
    he']
  simp

/-- The books after a stream. -/
theorem records_moderateStream (rule : Rule) (g : Gate σ)
    (response : Response) (came : Nat) :
    Records s (streamFate rule g response s) (moderateStream rule g response came s) := by
  obtain ⟨-, hrequest, hreports, -⟩ :=
    Interceptor.run_drain g.settings (guardOf rule s) response.body g.judge s.world
  obtain ⟨hpayload, hguard⟩ := isMarked_settled rule g response s
  obtain ⟨refusal, hrefusal⟩ : ∃ refusal,
      firstRefusal? g.settings.failurePolicy (verdictsOn rule g response s) = refusal := ⟨_, rfl⟩
  rw [hrefusal] at hpayload
  have hblocked : ((Interceptor.settled g.settings (guardOf rule s) response.body).run g.judge
      s.world).1.1.isBlocked = refusal.isSome := by
    rw [Stream.Request.isBlocked, hpayload, Option.isSome_map]
  rw [hblocked] at hguard hreports
  have hactive : (moderateStream rule g response came s).1.active =
      (s.active.register rule.id).1.release ⟨s.active.nextId, refusal.isSome⟩ := by
    rw [← hguard, ← hrequest]
    rfl
  have hstats : (moderateStream rule g response came s).1.stats =
      countReports (if refusal.isSome then 1 else 0)
        ((s.count Stats.recordStreaming).answered came).stats := by
    rw [← hreports]
    rfl
  unfold streamFate
  rw [hrefusal]
  refine ⟨rfl, ?_, ?_, ?_, fun h => ?_, ?_⟩
  · rw [hstats, requests_countReports]
    rfl
  · rw [hstats, errors_countReports]
    rfl
  · rw [hstats, blocked_countReports]
    rfl
  · rw [hactive, InFlight.release_register h]
    exact ⟨rfl, rfl, fun entry hentry => Nat.lt_succ_of_lt (h entry hentry)⟩
  · intro answer e hfate
    obtain ⟨rfl, rfl⟩ := Fate.streamed.inj hfate
    simp [getLast?_of_refused hrefusal, pieceOf]

/-! ### Everything else -/

/-- The books after a response that passes. -/
theorem records_passed (answer : Response) (came : Nat) :
    Records s (.passed answer) (s.answered came, answer) :=
  .ofUnstreamed rfl rfl rfl rfl rfl rfl

theorem records_moderateBytes (g : Gate σ) {response : Response} {bytes : Bytes}
    (hbytes : Arrival.collect response.body = .ok bytes) (came : Nat) :
    Records s (documentFate g response s) (moderateBytes g response bytes came s) := by
  unfold documentFate moderateBytes
  rw [hbytes]
  dsimp only
  split
  · exact records_passed _ came
  · cases resolveReply g.settings.failurePolicy response.status
      (g.judge s.world ⟨.content, (Chat.messageContent? bytes).getD ""⟩).1 with
    | none => exact .ofUnstreamed rfl rfl rfl rfl rfl rfl
    | some x => exact .ofUnstreamed rfl rfl rfl rfl rfl rfl

theorem records_moderateDocument (g : Gate σ) (response : Response) (came : Nat) :
    Records s (documentFate g response s) (moderateDocument g response came s) := by
  cases hbody : Arrival.collect response.body with
  | error message =>
    unfold documentFate moderateDocument
    rw [hbody]
    exact .ofUnstreamed rfl rfl rfl rfl rfl rfl
  | ok bytes =>
    have hbytes := records_moderateBytes (s := s) g hbody came
    unfold moderateDocument
    rw [hbody]
    exact hbytes

theorem records_moderate (rule : Rule) (g : Gate σ) (response : Response) (came : Nat) :
    Records s (moderatedFate rule g response s) (moderate rule g response came s) := by
  unfold moderatedFate moderate
  cases treatment response.headers with
  | encoded =>
    unfold moderateEncoded
    cases g.settings.failurePolicy with
    | failOpen => exact records_passed _ came
    | failClosed => exact .ofUnstreamed rfl rfl rfl rfl rfl rfl
  | stream => exact records_moderateStream rule g response came
  | document => exact records_moderateDocument g response came
  | other => exact records_passed _ came

/-- Sending a request on concerns the peers only. -/
theorem books_forward (setup : Setup σ) (moderated : Bool) (r : Http.Request) (s : State σ) :
    (forward setup moderated r s).2.stats = s.stats ∧
      (forward setup moderated r s).2.active = s.active := by
  unfold forward
  dsimp only
  exact ⟨rfl, rfl⟩

theorem records_relay (setup : Setup σ) (rule : Rule) (gate : Option (Gate σ))
    (r : Http.Request) (came : Nat) :
    Records s (relayFate setup rule gate r s) (relay setup rule gate r came s) := by
  obtain ⟨hstats, hactive⟩ := books_forward setup gate.isSome r s
  unfold relayFate relay
  generalize forward setup gate.isSome r s = sent at hstats hactive
  obtain ⟨result, s'⟩ := sent
  refine Records.congr (s := s') ?_ hstats.symm hactive.symm
  cases result with
  | error f => exact .ofUnstreamed rfl rfl rfl rfl rfl rfl
  | ok response =>
    cases gate with
    | none => exact records_passed _ came
    | some g =>
      dsimp only
      split
      · exact records_moderate rule g response came
      · exact records_passed _ came

theorem records_screened (setup : Setup σ) (rule : Rule) (gate : Option (Gate σ))
    (r : Http.Request) (came : Nat) :
    Records s (screenedFate setup rule gate r s) (screened setup rule gate r came s) := by
  unfold screenedFate screened
  dsimp only
  generalize screen rule.sensitiveWords (gate.map (·.settings)) r.body s.matchers setup.words = x
  obtain ⟨matchers, screening⟩ := x
  dsimp only
  generalize screening.run (Gate.judgeOf gate) s.world = y
  obtain ⟨outcome, world⟩ := y
  cases outcome with
  | allowed =>
    have hrelay := records_relay (s := { s with matchers, world }) setup rule gate r came
    exact hrelay.congr rfl rfl
  | rejected status e =>
    exact .ofUnstreamed rfl rfl rfl rfl rfl rfl

theorem records_underRule (setup : Setup σ) (rule : Rule) (r : Http.Request) (came : Nat) :
    Records s (ruledFate setup rule r s) (underRule setup rule r came s) := by
  unfold ruledFate underRule
  cases Gate.ofRule rule setup.checkers s.world with
  | ok x =>
    obtain ⟨gate, world⟩ := x
    exact (records_screened (s := { s with world }) setup rule gate r came).congr rfl rfl
  | error fault =>
    dsimp only
    cases policyOf rule with
    | failOpen => exact records_screened setup rule none r came
    | failClosed => exact .ofUnstreamed rfl rfl rfl rfl rfl rfl

/-- What is counted makes no difference to where a request goes. -/
theorem forward_count (setup : Setup σ) (moderated : Bool) (r : Http.Request) (s : State σ)
    (event : Stats → Stats) :
    (forward setup moderated r (s.count event)).1 = (forward setup moderated r s).1 := by
  unfold forward
  dsimp only
  rfl

theorem records_bypass (setup : Setup σ) (r : Http.Request) (came : Nat) :
    Records s (bypassFate setup r s) (bypass setup r came s) := by
  obtain ⟨hstats, hactive⟩ := books_forward setup false r (s.count Stats.recordBypassed)
  unfold bypassFate bypass
  rw [← forward_count setup false r s Stats.recordBypassed]
  generalize forward setup false r (s.count Stats.recordBypassed) = sent at hstats hactive
  obtain ⟨result, s'⟩ := sent
  suffices hcounted : ∀ f x, Records s' f x → Records s f x by
    cases result with
    | ok response => exact hcounted _ _ (records_passed (passed response) came)
    | error f =>
      exact hcounted _ _ (.ofUnstreamed rfl rfl rfl rfl rfl rfl)
  intro f x hrecords
  -- that the path has no rule is counted elsewhere
  have hbefore : Records (s.count Stats.recordBypassed) f x :=
    hrecords.congr hstats.symm hactive.symm
  exact ⟨hbefore.answer, hbefore.requests, hbefore.errors, hbefore.blocked, hbefore.active,
    hbefore.payload⟩

/-- Whatever becomes of a request, the books say so. -/
theorem records_handle (setup : Setup σ) (r : Http.Request) (s : State σ) :
    Records s (fate setup r s) (handle setup r s) := by
  unfold fate handle
  split
  · exact .ofUnstreamed rfl rfl rfl rfl rfl rfl
  · cases setup.rules.resolve r.path with
    | none => exact records_bypass setup r s.world.now
    | some rule => exact records_underRule setup rule r s.world.now

end ModerationGateway.Gateway
