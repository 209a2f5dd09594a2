import ModerationGateway.Proofs.Moderation.Refusal

/-!
# What a client receives

The rounds of a stream and the bytes behind them are the bytes of the stream. A stream that no
verdict refuses is therefore handed on as it came, whatever its chunks and batches are.

* `Interceptor.attach`: the interceptor of a new request;
* `Course.of_chunks`, `Course.flatten_raws`, `Course.raws_prefix`: the bytes of the rounds;
* `run_drain`, `exchanges_drain`: a run of a stream, by the run of its rounds;
* `deltaEvent`: how an answer streams a piece of text;
* `drain_of_cleared`: a stream that is not refused is handed on byte for byte.
-/

namespace ModerationGateway.Moderation

open ModerationGateway.Stream

/-! ### The bytes of the rounds -/

namespace Course

/-- Chunks add the rounds of the batches that they fill. -/
theorem of_chunks (a : Assembler) (b : Batcher) (chunks : List Bytes) (rest : List Arrival) :
    of a b (chunks.map .chunk ++ rest) =
      { of (a.feedAll chunks).1 (b.pushAll (a.feedAll chunks).2).1 rest with
        rounds := (b.pushAll (a.feedAll chunks).2).2.map .full ++
          (of (a.feedAll chunks).1 (b.pushAll (a.feedAll chunks).2).1 rest).rounds } := by
  induction chunks generalizing a b with
  | nil => rfl
  | cons chunk chunks ih =>
    simp only [List.map_cons, List.cons_append, of, Assembler.feedAll_cons, Batcher.pushAll_append]
    rw [ih]
    simp

theorem flatten_raws_full (batches : List Batch) :
    ((batches.map Round.full).flatMap Round.raws).flatten = Batch.bytes batches.flatten := by
  induction batches with
  | nil => rfl
  | cons batch batches ih => simpa [Round.raws, Round.batch] using ih

theorem bytes_pushAll (b : Batcher) (frames : List Frame) :
    Batch.bytes (b.pushAll frames).2.flatten ++ Batch.bytes (b.pushAll frames).1.queue =
      Batch.bytes b.queue ++ Batch.bytes frames := by
  rw [← Batch.bytes_append, ← Batch.bytes_append, b.flatten_pushAll]

/-- At the end of a stream everything that waited is in a round or behind the rounds. -/
theorem flatten_raws_of_nil (a : Assembler) (b : Batcher) :
    ((of a b []).rounds.flatMap Round.raws).flatten ++ (of a b []).trailing =
      Batch.bytes b.queue ++ a.held := by
  have hpush := bytes_pushAll b a.finish.2.frame.toList
  simp only [of, List.flatMap_append, List.flatten_append, flatten_raws_full,
    List.flatMap_singleton, Round.raws, Round.batch, Batcher.getD_finish, Batch.flatten_raws]
  rw [hpush, List.append_assoc, a.bytes_finish]

/-- The rounds of a stream that ends, and the bytes behind them, are its bytes. -/
theorem flatten_raws (c : ContentSecurity) (chunks : List Bytes) :
    ((ofArrivals c (chunks.map .chunk)).rounds.flatMap Round.raws).flatten ++
      (ofArrivals c (chunks.map .chunk)).trailing = chunks.flatten := by
  have hfeed := Assembler.bytes_feedAll .empty chunks
  have hpush := bytes_pushAll (.ofSize c.batchSize.toNat) (Assembler.empty.feedAll chunks).2
  have hcourse := of_chunks .empty (.ofSize c.batchSize.toNat) chunks []
  rw [List.append_nil] at hcourse
  rw [ofArrivals, hcourse]
  dsimp only
  rw [List.flatMap_append, List.flatten_append, flatten_raws_full, List.append_assoc,
    flatten_raws_of_nil, ← List.append_assoc, hpush, Batcher.queue_ofSize, Batch.bytes_nil,
    List.nil_append, hfeed, Assembler.held_empty, List.nil_append]

/-- The rounds of a stream that fails hold the bytes up to some point before the failure. -/
theorem raws_prefix (c : ContentSecurity) (chunks : List Bytes) (message : String)
    (rest : List Arrival) :
    ((ofArrivals c (chunks.map .chunk ++ .failed message :: rest)).rounds.flatMap
      Round.raws).flatten <+: chunks.flatten := by
  have hfeed := Assembler.bytes_feedAll .empty chunks
  have hpush := bytes_pushAll (.ofSize c.batchSize.toNat) (Assembler.empty.feedAll chunks).2
  rw [Batcher.queue_ofSize, Batch.bytes_nil, List.nil_append] at hpush
  rw [Assembler.held_empty, List.nil_append, ← hpush, List.append_assoc] at hfeed
  rw [ofArrivals, of_chunks]
  dsimp only [of]
  rw [List.append_nil, flatten_raws_full]
  exact ⟨_, hfeed⟩

@[simp] theorem failure_ofArrivals (c : ContentSecurity) (chunks : List Bytes) :
    (ofArrivals c (chunks.map .chunk)).failure = none := by
  have hcourse := of_chunks .empty (.ofSize c.batchSize.toNat) chunks []
  rw [List.append_nil] at hcourse
  rw [ofArrivals, hcourse]
  rfl

end Course

/-- A line that adds a text to the answer, and the blank line after it. -/
def deltaEvent (text : String) : Bytes :=
  let delta : Json := .object [("delta", .object [("content", .string text)])]
  Utf8.encode Chat.dataMark ++ (Json.object [("choices", .array [delta])]).bytes ++
    Utf8.ofText "\r\n\r\n"

/-! ### A run of a stream and the run of its rounds -/

namespace Interceptor

variable {σ : Type}

/-- The interceptor of a request that holds a guard, before the first chunk. -/
def attach (c : ContentSecurity) (guard : Guard) : Interceptor :=
  ofRequest c (.ofGuard c.windowSize.toNat guard)

/-- A request that has just been entered has the interceptor of its guard. -/
theorem ofRequest_start (c : ContentSecurity) (r : InFlight) (rule : String) :
    ofRequest c (Request.start r rule c.windowSize.toNat).2 = attach c (r.register rule).2 := rfl

/-- The rounds of a stream, settled from the start. -/
def settled (c : ContentSecurity) (guard : Guard) (arrivals : List Arrival) :
    Consult (Request × List Bytes) :=
  settleAll c (.ofGuard c.windowSize.toNat guard) (Course.ofArrivals c arrivals).rounds

section Run

variable (c : ContentSecurity) (guard : Guard) (arrivals : List Arrival) (judge : Consult.Judge σ)
  (s : σ)

theorem drain_attach :
    (drain c (attach c guard) arrivals >>= fun r => .done (r.1, r.2.request, r.2.reports)) =
      settled c guard arrivals >>= fun x =>
        .done ((Course.ofArrivals c arrivals).items x, x.1, if x.1.isBlocked then 1 else 0) := by
  have h := drain_eq_settleAll (c := c) (p := attach c guard) rfl rfl rfl arrivals
  simpa [attach, ofRequest, settled, Course.ofArrivals] using h

theorem run_drain :
    let r := (drain c (attach c guard) arrivals).run judge s
    let x := (settled c guard arrivals).run judge s
    r.1.1 = (Course.ofArrivals c arrivals).items x.1 ∧ r.1.2.request = x.1.1 ∧
      r.1.2.reports = (if x.1.1.isBlocked then 1 else 0) ∧ r.2 = x.2 := by
  have h := congrArg (fun m => m.run judge s) (drain_attach c guard arrivals)
  simp only [Consult.run_bind, Consult.run_done, Prod.mk.injEq] at h
  obtain ⟨⟨hitems, hrequest, hreports⟩, hs⟩ := h
  exact ⟨hitems, hrequest, hreports, hs⟩

theorem exchanges_drain :
    (drain c (attach c guard) arrivals).exchanges judge s =
      (settled c guard arrivals).exchanges judge s := by
  have h := congrArg (fun m => m.exchanges judge s) (drain_attach c guard arrivals)
  simpa [Consult.exchanges_bind] using h

end Run

/-- A stream that no verdict refuses is handed on byte for byte. Only text that passed, and text
that nobody could judge under a policy that fails open, is not refused. -/
theorem drain_of_cleared (c : ContentSecurity) (guard : Guard) (chunks : List Bytes)
    (judge : Consult.Judge σ) (s : σ)
    (hcleared : ∀ x ∈ (drain c (attach c guard) (chunks.map .chunk)).exchanges judge s,
      x.2 = .pass ∨
        c.failurePolicy = .failOpen ∧ ∃ message code, x.2 = .error message code) :
    (∃ pieces : List Bytes,
      ((drain c (attach c guard) (chunks.map .chunk)).run judge s).1.1 = pieces.map .ok ∧
        pieces.flatten = chunks.flatten) ∧
    ((drain c (attach c guard) (chunks.map .chunk)).run judge s).1.2.reports = 0 := by
  obtain ⟨hitems, -, hreports, -⟩ := run_drain c guard (chunks.map .chunk) judge s
  rcases settleAll_isLetGo_or_isRefused c judge s
      (q := .ofGuard c.windowSize.toNat guard) rfl (Course.ofArrivals c (chunks.map .chunk)).rounds
    with hgo | ⟨before, r, after, e, -, hno⟩
  · have hunblocked := Request.isBlocked_eq_false_iff.2 hgo.payload
    have hbytes := Course.flatten_raws c chunks
    refine ⟨⟨(Course.ofArrivals c (chunks.map .chunk)).rounds.flatMap Round.raws ++
      (Course.ofArrivals c (chunks.map .chunk)).tail, ?_, by simpa using hbytes⟩, ?_⟩
    · rw [hitems, Course.items, Course.epilogue, Course.failure_ofArrivals, settled, hgo.released,
        hunblocked]
      simp
    · rw [hreports, settled, hunblocked]
      rfl
  · -- the verdict that refused is among those that did not
    obtain ⟨earlier, x, hexchanges, -, hx⟩ := hno.refused
    have hmem : x ∈ (drain c (attach c guard) (chunks.map .chunk)).exchanges judge s := by
      rw [exchanges_drain, settled, hexchanges]
      simp
    rw [Verdict.refusal?_eq_none_iff.2 (hcleared x hmem)] at hx
    contradiction

/-- A checker that lets the first text pass and then never answers. -/
def passOnce : Consult.Judge Nat := fun n _ =>
  (if n = 0 then .pass else .error "no answer" "timeout", n + 1)

/-- Two frames to a batch, three characters in the window, and a check of the end. -/
def openSettings : ContentSecurity :=
  { ContentSecurity.ofVendor "scripted" "http://checker" with
    failurePolicy := .failOpen, batchSize := 2, windowSize := 3, tailCheck := true }

/-- Three events, cut inside a line end and inside a character, with an empty chunk between. -/
def cutChunks : List Bytes :=
  let body := deltaEvent "a" ++ deltaEvent "€b" ++ deltaEvent "cd"
  [body.take 45, [], (body.drop 45).take 42, body.drop 87]

theorem exchanges_cutChunks :
    (drain openSettings (attach openSettings ⟨0, false⟩) (cutChunks.map .chunk)).exchanges
        passOnce 0 =
      [(⟨.content, "a€b"⟩, .pass), (⟨.content, "bcd"⟩, .error "no answer" "timeout")] := by
  decide +kernel

theorem drain_of_cleared_cutChunks :
    (∃ pieces : List Bytes,
      ((drain openSettings (attach openSettings ⟨0, false⟩) (cutChunks.map .chunk)).run
          passOnce 0).1.1 = pieces.map .ok ∧
        pieces.flatten = cutChunks.flatten) ∧
    ((drain openSettings (attach openSettings ⟨0, false⟩) (cutChunks.map .chunk)).run
      passOnce 0).1.2.reports = 0 := by
  refine drain_of_cleared openSettings ⟨0, false⟩ cutChunks passOnce 0 fun x hx => ?_
  rw [exchanges_cutChunks] at hx
  rcases List.mem_cons.1 hx with hx | hx
  · exact .inl (congrArg Prod.snd hx)
  · exact .inr ⟨rfl, _, _, congrArg Prod.snd (List.mem_singleton.1 hx)⟩

end Interceptor

end ModerationGateway.Moderation
