import ModerationGateway.Gateway.Router
import ModerationGateway.Proofs.Gateway.Fates
import ModerationGateway.Proofs.Gateway.Withholding

/-!
# What a gateway counts

What a client is told and what `/stats` says agree. The fate of each request says what is to be
counted, so over a run the counts are the numbers of the fates of each kind.

* `requests_handle`: a request is counted, unless the gateway gives up on it early;
* `Visit`, `serve`, `fates`: requests one after the other, and what becomes of each;
* `Accounts`, `accounts_respond`: the refusals and the streams cut short, for one request;
* `Balances`, `balances_serve`, `accounts_run`: the same over all runs.
-/

namespace ModerationGateway.Gateway

open ModerationGateway.Http ModerationGateway.Moderation ModerationGateway.Stream

variable {σ : Type} {setup : Setup σ} {s : State σ}

/-! ### Requests -/

/-- A request that the gateway handles is counted, unless the gateway returns early: the body is too
large, or the path has a rule and the checker is not to be had or the upstream is not reached. Such
a request is an error, and as a request it is not counted. -/
theorem requests_handle (setup : Setup σ) (r : Http.Request) (s : State σ) :
    let f := fate setup r s
    let x := handle setup r s
    x.2 = f.answer ∧
      (x.1.stats.requests = s.stats.requests + 1 ↔ f.isUnrecorded = false) ∧
      (f.isUnrecorded = true → x.1.stats.requests = s.stats.requests ∧
        x.1.stats.errors = s.stats.errors + 1) := by
  intro f x
  obtain ⟨hanswer, hrequests, herrors, -, -, -⟩ := records_handle setup r s
  have hfailure : f.isUnrecorded = true → f.isFailure = true := by
    cases f <;> simp [Fate.isUnrecorded, Fate.isFailure]
  refine ⟨hanswer, ?_, fun hunrecorded => ?_⟩
  · rw [hrequests]
    cases f.isUnrecorded <;> simp
  · rw [hrequests, herrors, if_pos hunrecorded, if_pos (hfailure hunrecorded)]
    exact ⟨rfl, rfl⟩

/-- A gateway whose upstream says nothing. -/
def silentSetup : Setup Rehearsal :=
  { closedSetup with exchange := fun _ _ rehearsal => ([], rehearsal) }

/-- A gateway that has no checker. -/
def uncheckedSetup : Setup Rehearsal := { closedSetup with checkers := .empty }

/-- So it is not the case that every request is counted. On a path with a rule one that does not
reach the upstream is not, although on a path without a rule it is. -/
theorem uncounted_requests :
    (handle silentSetup { emptyRequest with target := "/other" } idle).1.stats.requests = 1 ∧
      (handle silentSetup emptyRequest idle).1.stats.requests = 0 ∧
      (handle uncheckedSetup emptyRequest idle).1.stats.requests = 0 ∧
      ¬ ∀ (setup : Setup Rehearsal) (r : Http.Request) (s : State Rehearsal),
        (handle setup r s).1.stats.requests = s.stats.requests + 1 := by
  have hlost : (handle silentSetup emptyRequest idle).1.stats.requests = 0 := by decide +kernel
  refine ⟨by decide +kernel, hlost, by decide +kernel, fun h => ?_⟩
  have hcounted := h silentSetup emptyRequest idle
  rw [hlost] at hcounted
  exact absurd hcounted (Nat.succ_ne_zero _).symm

/-! ### Requests one after the other -/

/-- A request that comes, and how the world has changed since the last one. -/
structure Visit (σ : Type) where
  meanwhile : World σ → World σ
  request : Http.Request

/-- The gateway when a request comes. -/
def State.atVisit (s : State σ) (v : Visit σ) : State σ := { s with world := v.meanwhile s.world }

/-- A request is answered. -/
def meet (setup : Setup σ) (s : State σ) (v : Visit σ) : State σ :=
  (respond setup v.request (s.atVisit v)).1

/-- Requests are answered one after the other. -/
def serve (setup : Setup σ) (s : State σ) (visits : List (Visit σ)) : State σ :=
  visits.foldl (meet setup) s

/-- What becomes of a request, if it is not for the gateway itself. -/
def fate? (setup : Setup σ) (r : Http.Request) (s : State σ) : Option Fate :=
  match endpoint? r.path with
  | none => some (fate setup r s)
  | some _ => none

/-- What becomes of the requests of a run. -/
def fates (setup : Setup σ) : State σ → List (Visit σ) → List Fate
  | _, [] => []
  | s, v :: visits =>
    (fate? setup v.request (s.atVisit v)).toList ++ fates setup (meet setup s v) visits

/-! ### What one request adds -/

/-- What is counted of a request that comes. -/
structure Accounts (setup : Setup σ) (r : Http.Request) (s : State σ) : Prop where
  /-- A request that is not for the gateway itself is answered by its fate. -/
  answer : ∀ f, fate? setup r s = some f → (respond setup r s).2 = f.answer
  /-- A stream that was refused ends with the envelope. -/
  payload : ∀ answer e, fate? setup r s = some (.streamed answer (some e)) →
    answer.body.getLast? = some (.chunk e.bytes)
  blocked_le : (respond setup r s).1.stats.blocked ≤ s.stats.blocked + 1
  /-- One more refusal is counted if the client has an envelope, and only then. -/
  blocked_iff : (respond setup r s).1.stats.blocked = s.stats.blocked + 1 ↔
    ∃ f e, fate? setup r s = some f ∧ f.envelope? = some e
  blocked_eq : endpoint? r.path ≠ some .reset → (respond setup r s).1.stats.blocked =
    s.stats.blocked + (fate? setup r s).toList.countP (·.envelope?.isSome)
  /-- One more stream is counted as refused if it was, and only then. -/
  cut : (respond setup r s).1.active.blocked =
    s.active.blocked + (fate? setup r s).toList.countP Fate.isCut
  /-- The request is not in flight any more. -/
  entries : (respond setup r s).1.active.entries = s.active.entries
  numbered : (respond setup r s).1.active.IsNumbered

/-- With a checker at hand the client has an envelope if something was refused, and only then. -/
theorem Fate.isRefusal_eq {f : Fate} (h : f.isUnguarded = false) :
    f.isRefusal = f.envelope?.isSome := by
  cases f with
  | unguarded code => contradiction
  | _ => rfl

/-- A path of the gateway itself changes nothing, unless it is the one that resets the counts. -/
theorem respond_of_endpoint {r : Http.Request} {e : Endpoint} (hpath : endpoint? r.path = some e)
    (setup : Setup σ) (s : State σ) :
    (respond setup r s).1 = s ∨ e = .reset ∧ (respond setup r s).1 = s.resetStats := by
  unfold respond
  rw [hpath]
  dsimp only
  split
  · cases e with
    | health => exact .inl rfl
    | stats => exact .inl rfl
    | reset => exact .inr ⟨rfl, rfl⟩
  · exact .inl rfl

theorem accounts_of_endpoint (h : s.active.IsNumbered) {r : Http.Request} {e : Endpoint}
    (hpath : endpoint? r.path = some e) (setup : Setup σ) : Accounts setup r s := by
  have hfate : fate? setup r s = none := by simp only [fate?, hpath]
  have hafter := respond_of_endpoint hpath setup s
  have hblocked : (respond setup r s).1.stats.blocked ≤ s.stats.blocked := by
    rcases hafter with hsame | ⟨-, hreset⟩
    · rw [hsame]
    · rw [hreset]
      exact Nat.zero_le _
  have hactive : (respond setup r s).1.active = s.active := by
    rcases hafter with hsame | ⟨-, hreset⟩
    · rw [hsame]
    · rw [hreset]
      rfl
  constructor
  · simp [hfate]
  · simp [hfate]
  · omega
  · rw [hfate]
    exact ⟨fun hcounted => by omega, by simp⟩
  · intro hnot
    rw [hfate]
    rcases hafter with hsame | ⟨rfl, -⟩
    · rw [hsame]
      rfl
    · exact absurd hpath hnot
  · rw [hactive, hfate]
    rfl
  · rw [hactive]
  · rw [hactive]
    exact h

/-- The counts are right after any request that needs no checker that is not to be had. -/
theorem accounts_respond (h : s.active.IsNumbered) {r : Http.Request}
    (hguarded : ∀ f, fate? setup r s = some f → f.isUnguarded = false) : Accounts setup r s := by
  cases hpath : endpoint? r.path with
  | some e => exact accounts_of_endpoint h hpath setup
  | none =>
    have hfate : fate? setup r s = some (fate setup r s) := by simp only [fate?, hpath]
    have hrespond : respond setup r s = handle setup r s := by simp only [respond, hpath]
    obtain ⟨hanswer, -, -, hblocked, hreleases, hpayload⟩ := records_handle setup r s
    obtain ⟨hcut, hentries, hnumbered⟩ := hreleases h
    rw [Fate.isRefusal_eq (hguarded _ hfate)] at hblocked
    constructor
    · intro f hf
      rw [hrespond, hanswer, Option.some.inj (hfate.symm.trans hf)]
    · intro answer e hf
      exact hpayload answer e (Option.some.inj (hfate.symm.trans hf))
    · rw [hrespond, hblocked]
      split <;> omega
    · rw [hrespond, hblocked, hfate]
      cases he : (fate setup r s).envelope? <;> simp [he]
    · intro _
      rw [hrespond, hblocked, hfate, Option.toList_some, List.countP_singleton]
    · rw [hrespond, hcut, hfate, Option.toList_some, List.countP_singleton]
    · rw [hrespond, hentries]
    · rw [hrespond]
      exact hnumbered

/-! ### What a run adds -/

theorem fates_append (setup : Setup σ) (s : State σ) (before more : List (Visit σ)) :
    fates setup s (before ++ more) =
      fates setup s before ++ fates setup (serve setup s before) more := by
  induction before generalizing s with
  | nil => rfl
  | cons v before ih =>
    rw [List.cons_append, fates, fates, ih, List.append_assoc]
    rfl

/-- All checkers are to be had when a rule that fails closed needs them. -/
def IsGuarded (setup : Setup σ) (s : State σ) (visits : List (Visit σ)) : Prop :=
  ∀ f ∈ fates setup s visits, f.isUnguarded = false

theorem IsGuarded.head {v : Visit σ} {visits : List (Visit σ)}
    (h : IsGuarded setup s (v :: visits)) :
    ∀ f, fate? setup v.request (s.atVisit v) = some f → f.isUnguarded = false := by
  intro f hf
  apply h
  rw [fates, hf]
  exact List.mem_append_left _ (List.mem_singleton_self f)

theorem IsGuarded.tail {v : Visit σ} {visits : List (Visit σ)}
    (h : IsGuarded setup s (v :: visits)) : IsGuarded setup (meet setup s v) visits := by
  intro f hf
  apply h
  rw [fates]
  exact List.mem_append_right _ hf

theorem IsGuarded.append {before more : List (Visit σ)}
    (h : IsGuarded setup s (before ++ more)) :
    IsGuarded setup s before ∧ IsGuarded setup (serve setup s before) more := by
  unfold IsGuarded at h ⊢
  rw [fates_append] at h
  exact List.forall_mem_append.1 h

/-- The counts after a run of requests. -/
structure Balances (setup : Setup σ) (s : State σ) (visits : List (Visit σ)) : Prop where
  /-- The streams that were refused are counted. -/
  cut : (serve setup s visits).active.blocked =
    s.active.blocked + (fates setup s visits).countP Fate.isCut
  entries : (serve setup s visits).active.entries = s.active.entries
  numbered : (serve setup s visits).active.IsNumbered
  /-- The requests whose clients have an envelope are counted, unless the counts are reset. -/
  blocked : (∀ v ∈ visits, endpoint? v.request.path ≠ some .reset) →
    (serve setup s visits).stats.blocked =
      s.stats.blocked + (fates setup s visits).countP (·.envelope?.isSome)

theorem balances_serve (h : s.active.IsNumbered) {visits : List (Visit σ)}
    (hguarded : IsGuarded setup s visits) : Balances setup s visits := by
  induction visits generalizing s with
  | nil => exact ⟨rfl, rfl, h, fun _ => rfl⟩
  | cons v visits ih =>
    have hnow : Accounts setup v.request (s.atVisit v) :=
      accounts_respond (s := s.atVisit v) h hguarded.head
    obtain ⟨hcut, hentries, hnumbered, hblocked⟩ : Balances setup (meet setup s v) visits :=
      ih hnow.numbered hguarded.tail
    have hfates : fates setup s (v :: visits) =
        (fate? setup v.request (s.atVisit v)).toList ++ fates setup (meet setup s v) visits := rfl
    have hserve : serve setup s (v :: visits) = serve setup (meet setup s v) visits := rfl
    refine ⟨?_, ?_, ?_, fun hkept => ?_⟩
    · rw [hserve, hcut, hfates, List.countP_append, ← Nat.add_assoc]
      exact congrArg (· + _) hnow.cut
    · rw [hserve, hentries]
      exact hnow.entries
    · rw [hserve]
      exact hnumbered
    · have hfirst := hnow.blocked_eq (hkept v List.mem_cons_self)
      rw [hserve, hblocked fun v' hv' => hkept v' (List.mem_cons_of_mem v hv'), hfates,
        List.countP_append, ← Nat.add_assoc]
      exact congrArg (· + _) hfirst

/-- Along every run in which no checker is missed, a request is counted as refused exactly if its
client has an envelope, as the whole answer or at the end of a stream, and then once. The streams
that were refused are counted apart, and after each response nothing is in flight. -/
theorem accounts_run (setup : Setup σ) (world : World σ) {visits : List (Visit σ)}
    (hguarded : IsGuarded setup (.start world) visits) :
    (∀ before v after, visits = before ++ v :: after →
        Accounts setup v.request ((serve setup (.start world) before).atVisit v) ∧
          (serve setup (.start world) (before ++ [v])).active.size = 0) ∧
      (serve setup (.start world) visits).active.blocked =
        (fates setup (.start world) visits).countP Fate.isCut ∧
      (serve setup (.start world) visits).active.size = 0 ∧
      ((∀ v ∈ visits, endpoint? v.request.path ≠ some .reset) →
        (serve setup (.start world) visits).stats.blocked =
          (fates setup (.start world) visits).countP (·.envelope?.isSome)) := by
  have hstart : (State.start world).active.IsNumbered := InFlight.isNumbered_empty
  have hempty : ∀ {vs : List (Visit σ)}, Balances setup (.start world) vs →
      (serve setup (.start world) vs).active.size = 0 := by
    intro vs hvs
    rw [InFlight.size, hvs.entries]
    rfl
  have hall := balances_serve hstart hguarded
  refine ⟨?_, hall.cut.trans (Nat.zero_add _), hempty hall, fun hkept =>
    (hall.blocked hkept).trans (Nat.zero_add _)⟩
  rintro before v after rfl
  obtain ⟨hbefore, hrest⟩ := hguarded.append
  have hearlier := balances_serve hstart hbefore
  have hv : IsGuarded setup (.start world) (before ++ [v]) := by
    rw [List.append_cons] at hguarded
    exact hguarded.append.1
  exact ⟨accounts_respond (s := (serve setup (.start world) before).atVisit v) hearlier.numbered
    hrest.head, hempty (balances_serve hstart hv)⟩

/-- A request at once after another one. -/
def atOnce (r : Http.Request) : Visit Rehearsal := ⟨id, r⟩

/-- A request without a rule, and one under a rule that checks every event. -/
def twoRequests : List (Visit Rehearsal) :=
  [atOnce { emptyRequest with target := "/other" }, atOnce emptyRequest]

/-- The second response is refused at its second event. -/
theorem accounts_run_twoRequests :
    IsGuarded closedSetup idle twoRequests ∧
      (serve closedSetup idle twoRequests).stats.blocked = 1 ∧
      (serve closedSetup idle twoRequests).active.blocked = 1 ∧
      (serve closedSetup idle twoRequests).active.size = 0 := by
  obtain ⟨hguarded, hkept, hrefused, hstreams⟩ :
      (∀ f ∈ fates closedSetup idle twoRequests, f.isUnguarded = false) ∧
        (∀ v ∈ twoRequests, endpoint? v.request.path ≠ some .reset) ∧
        (fates closedSetup idle twoRequests).countP (·.envelope?.isSome) = 1 ∧
        (fates closedSetup idle twoRequests).countP Fate.isCut = 1 := by
    decide +kernel
  obtain ⟨-, hcut, hsize, hblocked⟩ := accounts_run closedSetup ⟨0, .empty, .start⟩ hguarded
  exact ⟨hguarded, (hblocked hkept).trans hrefused, hcut.trans hstreams, hsize⟩

end ModerationGateway.Gateway
