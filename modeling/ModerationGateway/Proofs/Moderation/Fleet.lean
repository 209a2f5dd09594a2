import ModerationGateway.Proofs.Lists
import ModerationGateway.Proofs.Moderation.Reading

/-!
# Holders of guards

Guards are held by whoever asked for one: as they are, in the state of a request, or in a stream
that somebody reads. Any number of holders come, are blocked, go on and go, in any order. A stream
whose reader has come to the end lets its guard go by itself.

* `InFlight.release_of_contains`: a guard is let go;
* `Holding`, `Holder`: what holds a guard, and under which rule;
* `Fleet`, `Move`, `Fleet.step`, `Fleet.run`: the registry with all who ever had a guard of it;
* `Holding.IsSound`: a guard knows whether it was blocked, and a request what with at first;
* `Fleet.IsSound`, `Fleet.IsSound.run`: the registry is what the holders make of it;
* `Fleet.EndsGone`: a stream that has been read to the end has let its guard go;
* `Fleet.Drops`: what it is for a holder to go;
* `Fleet.Conserves`, `Fleet.conserves_run`: all of this, along every run.
-/

namespace ModerationGateway.Stream.InFlight

variable {r : InFlight} {g : Guard}

theorem contains_iff {id : RequestId} : r.contains id = true ↔ ∃ rule, (id, rule) ∈ r.entries := by
  rw [contains, rule?, List.lookup_isSome_iff]
  constructor
  · rintro ⟨⟨id', rule⟩, hmem, heq⟩
    exact ⟨rule, (beq_iff_eq.1 heq) ▸ hmem⟩
  · rintro ⟨rule, hmem⟩
    exact ⟨_, hmem, beq_self_eq_true id⟩

/-- A guard that is let go takes its own entry out and is counted, once more if it is blocked. -/
theorem release_of_contains (h : r.contains g.id = true) :
    r.release g = ⟨r.entries.filter fun entry => entry.1 != g.id, r.nextId, r.finished + 1,
      r.blocked + if g.isBlocked then 1 else 0⟩ := by
  unfold release
  rw [if_pos h]
  cases g.isBlocked <;> rfl

end ModerationGateway.Stream.InFlight

namespace ModerationGateway.Moderation

open ModerationGateway.Stream

/-- The envelopes of the verdicts on a stream that refuse: what its request is blocked with. -/
def Reading.refusals (c : ContentSecurity) (r : Reading) : List Bytes :=
  r.exchanges.filterMap fun x => (x.2.refusal? c.failurePolicy).map Envelope.bytes

/-- The reader knows that there is nothing more. -/
def Reading.isOver (r : Reading) : Bool :=
  match r.stage with
  | .ended => true
  | _ => false

/-- What holds a guard: nothing else, the state of a request with all that it was blocked with, or
a stream that is read. -/
inductive Holding where
  | bare (guard : Guard)
  | state (q : Request) (payloads : List Bytes)
  | stream (c : ContentSecurity) (r : Reading)

namespace Holding

variable {h : Holding} {id : RequestId}

/-- The guard. -/
def guard : Holding → Guard
  | bare guard => guard
  | state q _ => q.guard
  | stream _ r => r.interceptor.request.guard

/-- The state of the request, if there is one. -/
def request? : Holding → Option Request
  | bare _ => none
  | state q _ => some q
  | stream _ r => some r.interceptor.request

/-- What it was blocked with, in order. -/
def payloads : Holding → List Bytes
  | bare _ => []
  | state _ payloads => payloads
  | stream c r => r.refusals c

/-- It is a stream that has been read to the end. -/
def isOver : Holding → Bool
  | stream _ r => r.isOver
  | _ => false

/-- Block the request. A stream is blocked by the verdicts on it, and a bare guard by nobody. -/
def block (payload : Bytes) : Holding → Holding
  | state q payloads => state (q.block payload) (payloads ++ [payload])
  | h => h

/-- The reader of the stream goes on. -/
def advance : Holding → Holding
  | stream c r => stream c (r.advance c)
  | h => h

/-- A verdict on the stream comes. -/
def answer (v : Verdict) : Holding → Holding
  | stream c r => stream c (r.answer v)
  | h => h

/-- The guard has its identity and knows whether it was blocked, and the request knows what with
at first. -/
structure IsSound (id : RequestId) (h : Holding) : Prop where
  guard : h.guard = ⟨id, !h.payloads.isEmpty⟩
  payload : ∀ q, h.request? = some q → q.payload = h.payloads.head?
  heeds : ∀ c r, h = .stream c r → r.Heeds c.failurePolicy id

theorem isSound_bare (id : RequestId) : IsSound id (.bare ⟨id, false⟩) :=
  ⟨rfl, fun _ hq => by contradiction, fun _ _ h => by contradiction⟩

theorem isSound_state {q : Request} {payloads : List Bytes}
    (hguard : q.guard = ⟨id, !payloads.isEmpty⟩) (hpayload : q.payload = payloads.head?) :
    IsSound id (.state q payloads) := by
  refine ⟨hguard, fun q' hq' => ?_, fun _ _ h => by contradiction⟩
  obtain rfl : q = q' := Option.some.inj hq'
  exact hpayload

theorem isSound_stream {c : ContentSecurity} {r : Reading} (h : r.Heeds c.failurePolicy id) :
    IsSound id (.stream c r) := by
  have hhead : r.interceptor.request.payload = (r.refusals c).head? := by
    rw [h.marked.payload, Reading.refusals, List.head?_filterMap, firstRefusal?,
      List.map_findSome?]
    rfl
  constructor
  · have hblocked : r.interceptor.request.isBlocked = !(r.refusals c).isEmpty := by
      rw [Request.isBlocked, hhead]
      cases r.refusals c <;> rfl
    exact h.marked.guard.trans (congrArg _ hblocked)
  · intro q hq
    obtain rfl : r.interceptor.request = q := Option.some.inj hq
    exact hhead
  · intro c' r' hstream
    cases hstream
    exact h

namespace IsSound

theorem block (hs : IsSound id h) (payload : Bytes) : IsSound id (h.block payload) := by
  cases h with
  | bare guard => exact hs
  | stream c r => exact hs
  | state q payloads =>
    have hguard : q.guard = ⟨id, !payloads.isEmpty⟩ := hs.guard
    have hpayload : q.payload = payloads.head? := hs.payload q rfl
    cases payloads with
    | nil =>
      -- the first payload is the one that stays
      apply isSound_state <;> simp_all [Request.block]
    | cons first payloads =>
      apply isSound_state <;> simp_all [Request.block]

theorem advance (hs : IsSound id h) : IsSound id h.advance := by
  cases h with
  | bare guard => exact hs
  | state q payloads => exact hs
  | stream c r => exact isSound_stream (hs.heeds c r rfl).advance

theorem answer (hs : IsSound id h) (v : Verdict) : IsSound id (h.answer v) := by
  cases h with
  | bare guard => exact hs
  | state q payloads => exact hs
  | stream c r => exact isSound_stream ((hs.heeds c r rfl).answer v)

end IsSound

end Holding

/-- Who was given a guard under a rule. -/
structure Holder where
  rule : String
  holding : Holding
  /-- The guard was let go. -/
  isGone : Bool

namespace Holder

/-- The identity of the guard. -/
def id (h : Holder) : RequestId := h.holding.guard.id

/-- The holder is gone and was blocked. -/
def isLost (h : Holder) : Bool := h.isGone && !h.holding.payloads.isEmpty

end Holder

/-- A registry and all who ever had a guard of it, in the order in which they came. -/
structure Fleet where
  active : InFlight
  holders : List Holder

/-- What can happen: a guard is given out, to be held as it is, in the state of a request or in a
stream; a request is blocked; the reader of a stream goes on or has a verdict; a holder goes. -/
inductive Move where
  | register (rule : String)
  | start (rule : String) (windowSize : Nat)
  | attach (rule : String) (c : ContentSecurity) (arrivals : List Arrival)
  | block (i : Nat) (payload : Bytes)
  | advance (i : Nat)
  | answer (i : Nat) (v : Verdict)
  | drop (i : Nat)

/-- The rule under which a guard is given out, if one is. -/
def Move.rule? : Move → Option String
  | register rule => some rule
  | start rule _ => some rule
  | attach rule _ _ => some rule
  | _ => none

namespace Fleet

/-- Nobody has come. -/
def empty : Fleet := ⟨.empty, []⟩

/-- The holders that have not gone. -/
def live (f : Fleet) : List Holder := f.holders.filter fun h => !h.isGone

/-- The holder at a place, if it has not gone. -/
def live? (f : Fleet) (i : Nat) : Option Holder := f.holders[i]?.filter fun h => !h.isGone

/-- Somebody has been given a guard. -/
def enter (f : Fleet) (active : InFlight) (rule : String) (holding : Holding) : Fleet :=
  ⟨active, f.holders ++ [⟨rule, holding, false⟩]⟩

/-- A holder goes, and lets its guard go. -/
def letGo (f : Fleet) (i : Nat) (h : Holder) : Fleet :=
  ⟨f.active.release h.holding.guard, f.holders.set i { h with isGone := true }⟩

/-- A holder changes. It goes if it is a stream that is over. -/
def put (f : Fleet) (i : Nat) (h : Holder) (holding : Holding) : Fleet :=
  if holding.isOver then f.letGo i { h with holding }
  else { f with holders := f.holders.set i { h with holding } }

/-- A holder changes, unless it has gone or does not exist. -/
def change (f : Fleet) (i : Nat) (alter : Holding → Holding) : Fleet :=
  match f.live? i with
  | none => f
  | some h => f.put i h (alter h.holding)

/-- What a move does. -/
def step (f : Fleet) : Move → Fleet
  | .register rule =>
    let (active, guard) := f.active.register rule
    f.enter active rule (.bare guard)
  | .start rule windowSize =>
    let (active, q) := Request.start f.active rule windowSize
    f.enter active rule (.state q [])
  | .attach rule c arrivals =>
    let (active, q) := Request.start f.active rule c.windowSize.toNat
    f.enter active rule (.stream c (.ofInterceptor (.ofRequest c q) arrivals))
  | .block i payload => f.change i (.block payload)
  | .advance i => f.change i .advance
  | .answer i v => f.change i (.answer v)
  | .drop i =>
    match f.live? i with
    | none => f
    | some h => f.letGo i h

/-- Moves one after the other. -/
def run (f : Fleet) (moves : List Move) : Fleet := moves.foldl step f

variable {f : Fleet} {i : Nat} {h : Holder}

theorem live?_eq_some : f.live? i = some h ↔ f.holders[i]? = some h ∧ h.isGone = false := by
  simp [live?, Option.filter_eq_some_iff]

theorem live?_eq_none (hget : f.holders[i]? = some h) (hgone : h.isGone = true) :
    f.live? i = none := by
  simp [live?, hget, Option.filter, hgone]

theorem change_of_live (hlive : f.live? i = some h) (alter : Holding → Holding) :
    f.change i alter = f.put i h (alter h.holding) := by
  simp only [change, hlive]

theorem change_of_none (hnone : f.live? i = none) (alter : Holding → Holding) :
    f.change i alter = f := by
  simp only [change, hnone]

theorem step_drop (hlive : f.live? i = some h) : f.step (.drop i) = f.letGo i h := by
  simp only [step, hlive]

theorem step_drop_of_none (hnone : f.live? i = none) : f.step (.drop i) = f := by
  simp only [step, hnone]

/-! ### What the holders make of the registry -/

/-- The identity of a guard is the place of its holder, and the registry has what is live and
counts what is gone. -/
structure IsSound (f : Fleet) : Prop where
  holders : ∀ i (h : Holder), f.holders[i]? = some h → h.holding.IsSound i
  nextId : f.active.nextId = f.holders.length
  entries : f.active.entries = f.live.map fun h => (h.id, h.rule)
  finished : f.active.finished = f.holders.countP (·.isGone)
  blocked : f.active.blocked = f.holders.countP Holder.isLost

theorem isSound_empty : IsSound empty :=
  ⟨fun _ _ h => by simp [empty] at h, rfl, rfl, rfl, rfl⟩

namespace IsSound

theorem id_eq (hf : f.IsSound) (hget : f.holders[i]? = some h) : h.id = i :=
  congrArg Guard.id (hf.holders i h hget).guard

theorem ids_eq_range (hf : f.IsSound) : f.holders.map (·.id) = List.range f.holders.length := by
  apply List.ext_getElem (by simp)
  intro i hi _
  rw [List.getElem_map, List.getElem_range]
  exact hf.id_eq (List.getElem?_eq_getElem _)

theorem nodup_ids (hf : f.IsSound) : (f.holders.map (·.id)).Nodup := by
  rw [hf.ids_eq_range]
  exact List.nodup_range

/-- The registry has a holder until it goes. -/
theorem contains_iff (hf : f.IsSound) (hget : f.holders[i]? = some h) :
    f.active.contains h.id = true ↔ h.isGone = false := by
  rw [InFlight.contains_iff, hf.entries]
  constructor
  · rintro ⟨rule, hmem⟩
    obtain ⟨h', hh', hentry⟩ := List.mem_map.1 hmem
    obtain ⟨hmem', hlive⟩ := List.mem_filter.1 hh'
    obtain ⟨j, hj⟩ := List.mem_iff_getElem?.1 hmem'
    have hid : h'.id = h.id := congrArg Prod.fst hentry
    -- nobody else has that identity
    rw [hf.id_eq hj, hf.id_eq hget] at hid
    rw [hid, hget] at hj
    obtain rfl := Option.some.inj hj
    simpa using hlive
  · intro hlive
    exact ⟨h.rule, List.mem_map.2
      ⟨h, List.mem_filter.2 ⟨List.mem_of_getElem? hget, by simpa using hlive⟩, rfl⟩⟩

theorem enter (hf : f.IsSound) (rule : String) {holding : Holding}
    (hholding : holding.IsSound f.active.nextId) :
    (f.enter (f.active.register rule).1 rule holding).IsSound := by
  have hid : holding.guard.id = f.active.nextId := congrArg Guard.id hholding.guard
  constructor
  case holders =>
    intro i h hget
    rcases Nat.lt_or_ge i f.holders.length with hi | hi
    · rw [Fleet.enter, List.getElem?_append_left hi] at hget
      exact hf.holders i h hget
    · rw [Fleet.enter, List.getElem?_append_right hi, List.getElem?_singleton] at hget
      split at hget
      · next hlast =>
        obtain rfl := Option.some.inj hget
        have hi' : i = f.active.nextId := by
          rw [hf.nextId]
          exact Nat.le_antisymm (Nat.sub_eq_zero_iff_le.1 hlast) hi
        rw [hi']
        exact hholding
      · contradiction
  case nextId => simp [Fleet.enter, InFlight.register, hf.nextId]
  case entries =>
    simp [Fleet.enter, InFlight.register, hf.entries, live, Holder.id, hid]
  case finished => simp [Fleet.enter, InFlight.register, hf.finished]
  case blocked => simp [Fleet.enter, InFlight.register, hf.blocked, Holder.isLost]

/-- The holders before and after one, and that it is the only one with its identity. -/
theorem exists_split (hf : f.IsSound) (hget : f.holders[i]? = some h) (h' : Holder) :
    ∃ before after, f.holders = before ++ h :: after ∧ f.holders.set i h' = before ++ h' :: after ∧
      ∀ other ∈ before ++ after, other.id ≠ h.id := by
  obtain ⟨hi, hh⟩ := List.getElem?_eq_some_iff.1 hget
  obtain ⟨before, after, hsplit, -, hset⟩ : ∃ before after,
      f.holders = before ++ f.holders[i] :: after ∧ before.length = i ∧
        f.holders.set i h' = before ++ h' :: after := List.exists_of_set hi
  rw [hh] at hsplit
  refine ⟨before, after, hsplit, hset, fun other hmem hid => ?_⟩
  have hnodup := hf.nodup_ids
  rw [hsplit, List.map_append, List.map_cons] at hnodup
  have hcons := (List.perm_middle.nodup_iff.1 hnodup)
  rw [← List.map_append, List.nodup_cons] at hcons
  exact hcons.1 (List.mem_map.2 ⟨other, hmem, hid⟩)

theorem holders_set (hf : f.IsSound) (h' : Holder) (hh' : h'.holding.IsSound i) (j : Nat)
    (h'' : Holder) (hget : (f.holders.set i h')[j]? = some h'') : h''.holding.IsSound j := by
  rw [List.getElem?_set] at hget
  split at hget
  · next hij =>
    split at hget
    · obtain rfl := Option.some.inj hget
      exact hij ▸ hh'
    · contradiction
  · exact hf.holders j h'' hget

/-- A holder that changes and does not go keeps its entry. -/
theorem set (hf : f.IsSound) (hlive : f.live? i = some h) {holding : Holding}
    (hholding : holding.IsSound i) :
    IsSound { f with holders := f.holders.set i { h with holding } } := by
  obtain ⟨hget, hgone⟩ := live?_eq_some.1 hlive
  obtain ⟨before, after, hsplit, hset, -⟩ := hf.exists_split hget { h with holding }
  have hid : holding.guard.id = h.holding.guard.id :=
    (congrArg Guard.id hholding.guard).trans (hf.id_eq hget).symm
  constructor
  case holders => exact hf.holders_set _ hholding
  case nextId => simpa using hf.nextId
  case entries =>
    show f.active.entries = _
    rw [hf.entries, live, live, hset, hsplit]
    simp [Holder.id, hgone, hid]
  case finished =>
    show f.active.finished = _
    rw [hf.finished, hset, hsplit]
    simp [hgone]
  case blocked =>
    show f.active.blocked = _
    rw [hf.blocked, hset, hsplit]
    simp [Holder.isLost, hgone]

/-- A holder that goes takes its own entry with it, and no other. -/
theorem letGo (hf : f.IsSound) (hlive : f.live? i = some h) : (f.letGo i h).IsSound := by
  obtain ⟨hget, hgone⟩ := live?_eq_some.1 hlive
  obtain ⟨before, after, hsplit, hset, hne⟩ := hf.exists_split hget { h with isGone := true }
  have hrelease : f.active.release h.holding.guard =
      ⟨f.active.entries.filter fun entry => entry.1 != h.id, f.active.nextId,
        f.active.finished + 1, f.active.blocked + if h.holding.guard.isBlocked then 1 else 0⟩ :=
    InFlight.release_of_contains ((hf.contains_iff hget).2 hgone)
  have hblocked : h.holding.guard.isBlocked = !h.holding.payloads.isEmpty :=
    congrArg Guard.isBlocked (hf.holders i h hget).guard
  have hkeep : ∀ holders : List Holder, (∀ other ∈ holders, other.id ≠ h.id) →
      ((holders.filter fun h => !h.isGone).map fun h => (h.id, h.rule)).filter
          (fun entry => entry.1 != h.id) =
        (holders.filter fun h => !h.isGone).map fun h => (h.id, h.rule) := by
    intro holders hholders
    refine List.filter_eq_self.2 fun entry hentry => ?_
    obtain ⟨other, hother, rfl⟩ := List.mem_map.1 hentry
    exact bne_iff_ne.2 (hholders other (List.mem_filter.1 hother).1)
  constructor
  case holders => exact hf.holders_set { h with isGone := true } (hf.holders i h hget)
  case nextId => simpa [Fleet.letGo, hrelease] using hf.nextId
  case entries =>
    show (f.active.release h.holding.guard).entries = _
    rw [hrelease]
    dsimp only
    rw [hf.entries, live, live, Fleet.letGo]
    dsimp only
    rw [hset, hsplit]
    have hbefore := hkeep before fun other hmem => hne other (List.mem_append_left _ hmem)
    have hafter := hkeep after fun other hmem => hne other (List.mem_append_right _ hmem)
    simp [hgone, hbefore, hafter]
  case finished =>
    show (f.active.release h.holding.guard).finished = List.countP _ (f.holders.set i _)
    rw [hrelease, hset]
    simp [hf.finished, hsplit, hgone, Nat.add_assoc]
  case blocked =>
    show (f.active.release h.holding.guard).blocked = List.countP _ (f.holders.set i _)
    rw [hrelease, hset]
    simp [hf.blocked, hsplit, List.countP_cons, Holder.isLost, hgone, hblocked, Nat.add_assoc]

theorem put (hf : f.IsSound) (hlive : f.live? i = some h) {holding : Holding}
    (hholding : holding.IsSound i) : (f.put i h holding).IsSound := by
  obtain ⟨hget, hgone⟩ := live?_eq_some.1 hlive
  have hi : i < f.holders.length := (List.getElem?_eq_some_iff.1 hget).1
  have hset := hf.set hlive hholding
  unfold Fleet.put
  split
  · have hlive' : live? { f with holders := f.holders.set i { h with holding } } i =
        some { h with holding } := by
      rw [live?_eq_some]
      exact ⟨by simp [hi], hgone⟩
    simpa [Fleet.letGo] using hset.letGo hlive'
  · exact hset

theorem change (hf : f.IsSound) (i : Nat) {alter : Holding → Holding}
    (halter : ∀ holding, holding.IsSound i → (alter holding).IsSound i) :
    (f.change i alter).IsSound := by
  cases hlive : f.live? i with
  | none =>
    rw [change_of_none hlive]
    exact hf
  | some h =>
    rw [change_of_live hlive]
    exact hf.put hlive (halter _ (hf.holders i h (live?_eq_some.1 hlive).1))

theorem step (hf : f.IsSound) (move : Move) : (f.step move).IsSound := by
  cases move with
  | register rule => exact hf.enter rule (Holding.isSound_bare _)
  | start rule windowSize => exact hf.enter rule (Holding.isSound_state rfl rfl)
  | attach rule c arrivals =>
    exact hf.enter rule
      (Holding.isSound_stream (.ofInterceptor (IsMarked.ofGuard c.failurePolicy _ _) arrivals))
  | block i payload => exact hf.change i fun _ h => h.block payload
  | advance i => exact hf.change i fun _ h => h.advance
  | answer i v => exact hf.change i fun _ h => h.answer v
  | drop i =>
    cases hlive : f.live? i with
    | none =>
      rw [step_drop_of_none hlive]
      exact hf
    | some h =>
      rw [step_drop hlive]
      exact hf.letGo hlive

end IsSound

theorem IsSound.run (hf : f.IsSound) (moves : List Move) : (f.run moves).IsSound := by
  induction moves generalizing f with
  | nil => exact hf
  | cons move moves ih => exact ih (hf.step move)

/-! ### Who came and who goes -/

theorem rules_change (f : Fleet) (i : Nat) (alter : Holding → Holding) :
    (f.change i alter).holders.map (·.rule) = f.holders.map (·.rule) := by
  cases hlive : f.live? i with
  | none => rw [change_of_none hlive]
  | some h =>
    obtain ⟨hget, -⟩ := live?_eq_some.1 hlive
    rw [change_of_live hlive]
    unfold put
    split
    · exact map_set_of_eq hget (·.rule) rfl
    · exact map_set_of_eq hget (·.rule) rfl

theorem rules_step (f : Fleet) (move : Move) :
    (f.step move).holders.map (·.rule) = f.holders.map (·.rule) ++ move.rule?.toList := by
  cases move with
  | register rule => simp [step, enter, Move.rule?]
  | start rule windowSize => simp [step, enter, Move.rule?]
  | attach rule c arrivals => simp [step, enter, Move.rule?]
  | block i payload => simp [step, rules_change, Move.rule?]
  | advance i => simp [step, rules_change, Move.rule?]
  | answer i v => simp [step, rules_change, Move.rule?]
  | drop i =>
    cases hlive : f.live? i with
    | none => simp [step_drop_of_none hlive, Move.rule?]
    | some h =>
      simp [step_drop hlive, Move.rule?, letGo, map_set_of_eq (live?_eq_some.1 hlive).1]

/-- The holders are those that came, each under its rule. -/
theorem rules_run (f : Fleet) (moves : List Move) :
    (f.run moves).holders.map (·.rule) = f.holders.map (·.rule) ++ moves.filterMap Move.rule? := by
  induction moves generalizing f with
  | nil => simp [run]
  | cons move moves ih =>
    show ((f.step move).run moves).holders.map (·.rule) = _
    rw [ih, rules_step, List.append_assoc]
    cases hrule : move.rule? <;> simp [hrule]

/-- A stream that has been read to the end has let its guard go. -/
def EndsGone (f : Fleet) : Prop := ∀ h ∈ f.holders, h.holding.isOver = true → h.isGone = true

namespace EndsGone

theorem enter (hf : f.EndsGone) (active : InFlight) (rule : String) {holding : Holding}
    (hnew : holding.isOver = false) : (f.enter active rule holding).EndsGone := by
  intro h hmem hover
  rcases List.mem_append.1 hmem with hmem | hmem
  · exact hf h hmem hover
  · obtain rfl := List.mem_singleton.1 hmem
    rw [hnew] at hover
    contradiction

theorem letGo (hf : f.EndsGone) (i : Nat) (h : Holder) : (f.letGo i h).EndsGone := by
  intro h' hmem hover
  rcases List.mem_or_eq_of_mem_set hmem with hmem | rfl
  · exact hf h' hmem hover
  · rfl

theorem change (hf : f.EndsGone) (i : Nat) (alter : Holding → Holding) :
    (f.change i alter).EndsGone := by
  cases hlive : f.live? i with
  | none =>
    rw [change_of_none hlive]
    exact hf
  | some h =>
    rw [change_of_live hlive]
    unfold Fleet.put
    split
    · exact hf.letGo i _
    · next hstays =>
      intro h' hmem hover
      rcases List.mem_or_eq_of_mem_set hmem with hmem | rfl
      · exact hf h' hmem hover
      · contradiction

theorem step (hf : f.EndsGone) (move : Move) : (f.step move).EndsGone := by
  cases move with
  | register rule => exact hf.enter _ rule rfl
  | start rule windowSize => exact hf.enter _ rule rfl
  | attach rule c arrivals => exact hf.enter _ rule rfl
  | block i payload => exact hf.change i _
  | advance i => exact hf.change i _
  | answer i v => exact hf.change i _
  | drop i =>
    cases hlive : f.live? i with
    | none =>
      rw [step_drop_of_none hlive]
      exact hf
    | some h =>
      rw [step_drop hlive]
      exact hf.letGo i h

theorem run (hf : f.EndsGone) (moves : List Move) : (f.run moves).EndsGone := by
  induction moves generalizing f with
  | nil => exact hf
  | cons move moves ih => exact ih (hf.step move)

end EndsGone

/-- A holder goes at this moment: its own entry goes, and it is counted, unless it has gone
already. -/
structure Drops (f : Fleet) (i : Nat) (h : Holder) : Prop where
  entries : (f.step (.drop i)).active.entries = f.active.entries.filter fun e => e.1 != h.id
  holders : (f.step (.drop i)).holders = f.holders.set i { h with isGone := true }
  finished : (f.step (.drop i)).active.finished = f.active.finished + if h.isGone then 0 else 1
  blocked : (f.step (.drop i)).active.blocked =
    f.active.blocked + if h.isGone || h.holding.payloads.isEmpty then 0 else 1

theorem IsSound.drops (hf : f.IsSound) (hget : f.holders[i]? = some h) : f.Drops i h := by
  cases hgone : h.isGone with
  | true =>
    have hstep : f.step (.drop i) = f := step_drop_of_none (live?_eq_none hget hgone)
    obtain ⟨hi, rfl⟩ := List.getElem?_eq_some_iff.1 hget
    have hsame : { f.holders[i] with isGone := true } = f.holders[i] := by rw [← hgone]
    constructor
    · rw [hstep]
      refine (List.filter_eq_self.2 fun e he => bne_iff_ne.2 fun hid => ?_).symm
      -- whoever is gone has no entry
      have hcontains : f.active.contains f.holders[i].id = true :=
        InFlight.contains_iff.2 ⟨e.2, hid ▸ he⟩
      rw [hf.contains_iff hget, hgone] at hcontains
      contradiction
    · rw [hstep, hsame, List.set_getElem_self]
    · simp [hstep, hgone]
    · simp [hstep, hgone]
  | false =>
    have hstep : f.step (.drop i) = f.letGo i h := step_drop (live?_eq_some.2 ⟨hget, hgone⟩)
    have hblocked : h.holding.guard.isBlocked = !h.holding.payloads.isEmpty :=
      congrArg Guard.isBlocked (hf.holders i h hget).guard
    have hrelease := InFlight.release_of_contains (g := h.holding.guard)
      ((hf.contains_iff hget).2 hgone)
    constructor
    · rw [hstep, Fleet.letGo, hrelease]
      rfl
    · rw [hstep, Fleet.letGo]
    · rw [hstep, Fleet.letGo, hrelease]
      simp [hgone]
    · rw [hstep, Fleet.letGo, hrelease]
      simp [hgone, hblocked]

/-- The registry has the live holders, each under its rule and no two with the same identity; it
counts those that are gone, and among them those that were blocked; every request has the payload
that it was blocked with first; and whoever goes next takes no entry but its own. Who reads a
stream to the end has let it go. -/
structure Conserves (f : Fleet) : Prop where
  entries : f.active.entries = f.live.map fun h => (h.id, h.rule)
  distinct : (f.holders.map (·.id)).Nodup
  finished : f.active.finished = f.holders.countP (·.isGone)
  blocked : f.active.blocked = f.holders.countP fun h => h.isGone && !h.holding.payloads.isEmpty
  total : f.active.size + f.active.finished = f.holders.length
  payload : ∀ h ∈ f.holders, ∀ q, h.holding.request? = some q →
    q.payload = h.holding.payloads.head?
  drops : ∀ i (h : Holder), f.holders[i]? = some h → f.Drops i h
  ended : ∀ h ∈ f.holders, h.holding.isOver = true → h.isGone = true

theorem IsSound.conserves (hf : f.IsSound) (hended : f.EndsGone) : f.Conserves := by
  constructor
  case entries => exact hf.entries
  case distinct => exact hf.nodup_ids
  case finished => exact hf.finished
  case blocked => exact hf.blocked
  case total =>
    rw [InFlight.size, hf.entries, hf.finished, List.length_map, live,
      ← List.countP_eq_length_filter, Nat.add_comm,
      List.length_eq_countP_add_countP fun h : Holder => h.isGone]
    simp
  case payload =>
    intro h hmem q hq
    obtain ⟨i, hget⟩ := List.mem_iff_getElem?.1 hmem
    exact (hf.holders i h hget).payload q hq
  case drops => exact fun i h hget => hf.drops hget
  case ended => exact hended

/-- Whatever the holders of a registry do, and in whatever order, the registry is conserved, and
its holders are those that were given a guard, each under its rule. -/
theorem conserves_run (moves : List Move) :
    (empty.run moves).Conserves ∧
      (empty.run moves).holders.map (·.rule) = moves.filterMap Move.rule? :=
  ⟨(isSound_empty.run moves).conserves
    (EndsGone.run (fun _ hmem => absurd hmem List.not_mem_nil) moves), rules_run empty moves⟩

/-- A stream with one batch in which every text is found out. -/
def refusedStream : List Move :=
  [.attach "chat" Interceptor.openSettings [.chunk (deltaEvent "ab" ++ deltaEvent "c")],
    .advance 0, .answer 0 (.block "found" "scripted")]

/-- Beside a stream that is refused and read to the end, a state is blocked twice and a bare guard
stays: one entry is left, both requests are counted as blocked, and the first payload has stayed. -/
theorem conserves_run_refusedStream :
    let f := empty.run (refusedStream ++ [.register "bare", .start "state" 4, .block 2 [1],
      .advance 0, .block 2 [2], .advance 0, .drop 2, .drop 0])
    f.Conserves ∧ f.active.entries = [(1, "bare")] ∧ f.active.finished = 2 ∧
      f.active.blocked = 2 ∧
      (f.holders[2]?.bind (·.holding.request?)).bind (·.payload) = some [1] := by
  intro f
  obtain ⟨hconserves, -⟩ := conserves_run (refusedStream ++ [.register "bare", .start "state" 4,
    .block 2 [1], .advance 0, .block 2 [2], .advance 0, .drop 2, .drop 0])
  exact ⟨hconserves, by decide +kernel, by decide +kernel, by decide +kernel, by decide +kernel⟩

end Fleet

end ModerationGateway.Moderation
