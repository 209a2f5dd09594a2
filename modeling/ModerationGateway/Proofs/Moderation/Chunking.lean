import ModerationGateway.Proofs.Moderation.Coverage
import ModerationGateway.Proofs.Moderation.Outcome
import ModerationGateway.Proofs.Stream.Blanks

/-!
# Where a stream is cut

What is decided on frames depends on their texts alone. Where a stream is cut into chunks changes
no question, no decision and not the number of frames that are released. It shows only in a
refused stream, in the blank lines that stand right in front of the envelope: they are released if
they come in the chunk of the last line with text.

* `Frame.bare`, `Round.bare`: frames and rounds without their bytes;
* `sized`, `sized_settleAll_bare`: the bytes of frames do not matter to what rounds come to;
* `roundsFor`, `Course.bare_rounds_eq_roundsFor`: the rounds of a stream, by the texts of its lines;
* `decideOn`, `sized_settled_eq_decideOn`: what these rounds come to;
* `bytesOf`, `bytesOf_drain_of_blocked`: what a client has from a stream, and of a refused one;
* `drain_of_flatten_eq`: two ways of cutting a stream, and how far they lead to the same;
* `bytesOf_blankLate_ne`: a blank line shows where a stream was cut;
* `drain_decides_by_lines`: questions, verdicts and counts depend on the texts of lines alone.
-/

namespace ModerationGateway.Stream

/-- A frame without its bytes. -/
def Frame.bare (frame : Frame) : Frame := { frame with raw := [] }

namespace Batch

/-- A batch without its bytes. -/
def bare (batch : Batch) : Batch := batch.map .bare

@[simp] theorem delta_bare (batch : Batch) : batch.bare.delta = batch.delta := by
  simp [delta, bare, List.filterMap_map, Function.comp_def, Frame.bare]

@[simp] theorem length_raws_bare (batch : Batch) : batch.bare.raws.length = batch.raws.length := by
  simp [raws, bare]

end Batch

namespace Batcher

/-- A batcher without the bytes of its frames. -/
def bare (b : Batcher) : Batcher := { b with queue := Batch.bare b.queue }

theorem push_bare (b : Batcher) (frame : Frame) :
    b.bare.push frame.bare = ((b.push frame).1.bare, (b.push frame).2.map Batch.bare) := by
  simp only [push, bare, Batch.bare, List.length_append, List.length_map, List.length_singleton]
  split <;> simp [Batch.bare]

/-- Frames are grouped by their number. -/
theorem pushAll_bare (b : Batcher) (frames : List Frame) :
    b.bare.pushAll (Batch.bare frames) =
      ((b.pushAll frames).1.bare, (b.pushAll frames).2.map Batch.bare) := by
  induction frames generalizing b with
  | nil => rfl
  | cons frame frames ih =>
    have ih' := ih (b.push frame).1
    rw [Batch.bare] at ih' ⊢
    rw [List.map_cons, pushAll_cons, push_bare, ih', pushAll_cons]
    cases (b.push frame).2 <;> rfl

theorem finish_bare (b : Batcher) : b.bare.finish.2 = b.finish.2.map Batch.bare := by
  unfold finish bare
  cases b.queue <;> rfl

end Batcher

end ModerationGateway.Stream

namespace ModerationGateway.Moderation

open ModerationGateway.Stream

variable {σ : Type} {c : ContentSecurity} {q : Request}

/-! ### Decisions without bytes -/

/-- A round without the bytes of its frames. -/
def Round.bare : Round → Round
  | full batch => full batch.bare
  | last batch => last (batch.map Batch.bare)

/-- What a stretch of a run makes of a request, and how many pieces it releases. -/
def sized (m : Consult (Request × List Bytes)) : Consult (Request × Nat) :=
  m >>= fun x => .done (x.1, x.2.length)

@[simp] theorem run_sized (judge : Consult.Judge σ) (s : σ)
    (m : Consult (Request × List Bytes)) :
    (sized m).run judge s =
      (((m.run judge s).1.1, (m.run judge s).1.2.length), (m.run judge s).2) := by
  simp [sized, Consult.run_bind]

@[simp] theorem exchanges_sized (judge : Consult.Judge σ) (s : σ)
    (m : Consult (Request × List Bytes)) :
    (sized m).exchanges judge s = m.exchanges judge s := by
  simp [sized, Consult.exchanges_bind]

theorem sized_andThen (m : Consult (Request × List Bytes))
    (next : Request → Consult (Request × List Bytes)) :
    sized (andThen m next) = sized m >>= fun x =>
      if x.1.isBlocked then .done x
      else sized (next x.1) >>= fun y => .done (y.1, x.2 + y.2) := by
  simp only [sized, andThen_eq, Consult.bind_assoc, Consult.done_bind]
  refine Consult.bind_congr fun x => ?_
  split
  · rfl
  · simp [Consult.bind_assoc]

/-- A verdict releases as many pieces whatever the bytes of the frames are. -/
theorem sized_check_bare (c : ContentSecurity) (q : Request) (batch : Batch) :
    sized (check c q batch.bare) = sized (check c q batch) := by
  simp only [sized, check, Consult.ask_bind, Consult.done_bind]
  congr 1
  funext v
  cases h : v.refusal? c.failurePolicy with
  | none => simp [resolve_of_cleared h, letGo]
  | some e => simp [resolve_of_refused h]

namespace Round

theorem intake_bare (q : Request) (r : Round) : r.bare.intake q = r.intake q := by
  cases r with
  | full batch => simp [bare, intake, takeIn]
  | last batch => cases batch <;> simp [bare, intake, takeIn]

theorem isChecked_bare (c : ContentSecurity) (q : Request) (r : Round) :
    r.bare.isChecked c q = r.isChecked c q := by
  rw [isChecked, isChecked, intake_bare]
  cases r <;> rfl

theorem batch_bare (r : Round) : r.bare.batch = r.batch.bare := by
  cases r with
  | full batch => rfl
  | last batch => cases batch <;> rfl

theorem sized_settle_bare (hq : q.payload = none) (r : Round) :
    sized (r.bare.settle c q) = sized (r.settle c q) := by
  rw [settle_eq hq, settle_eq hq, isChecked_bare, intake_bare, batch_bare]
  split
  · exact sized_check_bare c _ _
  · simp [sized, raws, batch_bare]

end Round

/-- The bytes of the frames do not matter to what rounds come to. -/
theorem sized_settleAll_bare (hq : q.payload = none) (rounds : List Round) :
    sized (settleAll c q (rounds.map Round.bare)) = sized (settleAll c q rounds) := by
  induction rounds generalizing q with
  | nil => rfl
  | cons r rounds ih =>
    rw [List.map_cons, settleAll_cons, settleAll_cons, sized_andThen, sized_andThen,
      Round.sized_settle_bare hq]
    refine Consult.bind_congr fun x => ?_
    split
    next => rfl
    next hx => rw [ih (Request.isBlocked_eq_false_iff.1 (Bool.eq_false_iff.2 hx))]

/-! ### The rounds of a stream -/

theorem bare_framesOf (chunks : List Bytes) :
    Batch.bare (framesOf chunks) = (Assembler.frameTexts chunks).map fun text => ⟨text, []⟩ := by
  rw [Batch.bare, Assembler.frameTexts, List.map_map]
  rfl

theorem bare_roundsOf (batches : List Batch) (rest : Option Batch) :
    (roundsOf batches rest).map Round.bare =
      roundsOf (batches.map Batch.bare) (rest.map Batch.bare) := by
  simp [roundsOf, Round.bare]

theorem flatMap_raws_full (batches : List Batch) :
    (batches.map Round.full).flatMap Round.raws = Batch.raws batches.flatten := by
  induction batches with
  | nil => rfl
  | cons batch batches ih =>
    rw [List.map_cons, List.flatMap_cons, ih, List.flatten_cons, Batch.raws_append]
    rfl

/-- The rounds for some texts, one frame without bytes for each. -/
def roundsFor (c : ContentSecurity) (texts : List String) : List Round :=
  let grouped := (Batcher.ofSize c.batchSize.toNat).pushAll (texts.map fun text => ⟨text, []⟩)
  roundsOf grouped.2 grouped.1.finish.2

namespace Course

/-- Without their bytes the rounds of a stream are those for the texts of its lines. -/
theorem bare_rounds_eq_roundsFor (c : ContentSecurity) (chunks : List Bytes) :
    (ofArrivals c (chunks.map .chunk)).rounds.map Round.bare =
      roundsFor c (lineTexts chunks.flatten) := by
  have hframes : Batch.bare (framesOf chunks) =
      (lineTexts chunks.flatten).map fun text => ⟨text, []⟩ := by
    rw [bare_framesOf, Assembler.frameTexts_eq]
  have hgrouped : (Batcher.ofSize c.batchSize.toNat).pushAll (Batch.bare (framesOf chunks)) = _ :=
    (Batcher.ofSize c.batchSize.toNat).pushAll_bare (framesOf chunks)
  rw [rounds_of_chunks, bare_roundsOf, ← Batcher.finish_bare, roundsFor, ← hframes, hgrouped]

/-- The pieces of the rounds are those of the frames. -/
theorem flatMap_raws (c : ContentSecurity) (chunks : List Bytes) :
    (ofArrivals c (chunks.map .chunk)).rounds.flatMap Round.raws =
      Batch.raws (framesOf chunks) := by
  have hframes := (Batcher.ofSize c.batchSize.toNat).flatten_pushAll (framesOf chunks)
  rw [Batcher.queue_ofSize, List.nil_append, ← Batcher.getD_finish] at hframes
  have hraws := congrArg Batch.raws hframes
  rw [Batch.raws_append] at hraws
  rw [rounds_of_chunks, roundsOf, List.flatMap_append, flatMap_raws_full, List.flatMap_singleton]
  exact hraws

end Course

/-! ### What a client has -/

namespace Interceptor

/-- The bytes that a client has from some items. -/
def bytesOf (items : List Item) : Bytes :=
  items.flatMap fun
    | .ok bytes => bytes
    | .error _ => []

@[simp] theorem bytesOf_nil : bytesOf [] = [] := rfl

@[simp] theorem bytesOf_append (items more : List Item) :
    bytesOf (items ++ more) = bytesOf items ++ bytesOf more := by
  simp [bytesOf]

@[simp] theorem bytesOf_map_ok (pieces : List Bytes) :
    bytesOf (pieces.map .ok) = pieces.flatten := by
  simp [bytesOf, List.flatMap_map, List.flatMap_id']

/-- The decisions on some texts, each a line of its own. -/
def decideOn (c : ContentSecurity) (guard : Guard) (texts : List String) :
    Consult (Request × List Bytes) :=
  settleAll c (.ofGuard c.windowSize.toNat guard) (roundsFor c texts)

section Run

variable (c : ContentSecurity) (guard : Guard) (judge : Consult.Judge σ) (s : σ)

/-- The rounds of a stream come to what the texts of its lines come to, but for bytes. -/
theorem sized_settled_eq_decideOn (chunks : List Bytes) :
    sized (settled c guard (chunks.map .chunk)) =
      sized (decideOn c guard (lineTexts chunks.flatten)) := by
  rw [settled, ← sized_settleAll_bare rfl, Course.bare_rounds_eq_roundsFor, decideOn]

/-- Wherever a stream is cut, its rounds come to the same request and to as many pieces. -/
theorem sized_settled_of_flatten_eq {chunks others : List Bytes}
    (h : others.flatten = chunks.flatten) :
    sized (settled c guard (others.map .chunk)) = sized (settled c guard (chunks.map .chunk)) := by
  rw [sized_settled_eq_decideOn, sized_settled_eq_decideOn, h]

/-- A client has all of a stream that is not refused. -/
theorem bytesOf_drain_of_unblocked (chunks : List Bytes)
    (h : ((drain c (attach c guard) (chunks.map .chunk)).run judge s).1.2.request.payload = none) :
    bytesOf ((drain c (attach c guard) (chunks.map .chunk)).run judge s).1.1 = chunks.flatten := by
  obtain ⟨hitems, hrequest, -, -⟩ := run_drain c guard (chunks.map .chunk) judge s
  rw [hrequest] at h
  have hgo := isLetGo_settleAll (q := .ofGuard c.windowSize.toNat guard) rfl h
  rw [hitems, Course.items, Course.epilogue, Course.failure_ofArrivals,
    Request.isBlocked_eq_false_iff.2 h, settled, hgo.released, ← Course.flatten_raws c chunks]
  simp

/-- Of a stream that is refused a client has the lines that the frames released stand for, and the
envelope. -/
theorem bytesOf_drain_of_blocked (chunks : List Bytes) {payload : Bytes}
    (h : ((drain c (attach c guard) (chunks.map .chunk)).run judge s).1.2.request.payload =
      some payload) :
    let pieces := ((settled c guard (chunks.map .chunk)).run judge s).1.2
    bytesOf ((drain c (attach c guard) (chunks.map .chunk)).run judge s).1.1 =
      (linesFor (pieces.length - 1) chunks).flatten ++ payload := by
  intro pieces
  obtain ⟨hitems, hrequest, -, -⟩ := run_drain c guard (chunks.map .chunk) judge s
  rw [hrequest] at h
  have hblocked : ((settled c guard (chunks.map .chunk)).run judge s).1.1.isBlocked = true := by
    simp [Request.isBlocked, h]
  obtain ⟨before, r, after, e, hrounds, rfl, hno⟩ := exists_isRefused_settleAll
    (q := .ofGuard c.windowSize.toNat guard) rfl h
  have hpieces : pieces = before.flatMap Round.raws ++ [e.bytes] := hno.released
  -- the rounds before the refused one are the first frames, however they are grouped
  have hfirst : before.flatMap Round.raws <+: Batch.raws (framesOf chunks) := by
    rw [← Course.flatMap_raws c, hrounds, List.flatMap_append]
    exact List.prefix_append _ _
  have hn : (before.flatMap Round.raws).length ≤ (framesOf chunks).length := by
    simpa [Batch.raws] using hfirst.length_le
  have hbytes : (before.flatMap Round.raws).flatten =
      (linesFor (before.flatMap Round.raws).length chunks).flatten := by
    rw [← Assembler.bytes_take_frames chunks hn, ← Batch.flatten_raws]
    congr 1
    rw [List.prefix_iff_eq_take.1 hfirst]
    simp [Batch.raws, framesOf]
  have hlength : pieces.length - 1 = (before.flatMap Round.raws).length := by
    rw [hpieces, List.length_append]
    rfl
  rw [hitems, Course.items, hblocked, hlength, ← hbytes, bytesOf_append, bytesOf_map_ok]
  simpa using congrArg List.flatten hpieces

/-- Two ways of cutting a stream lead to the same questions, verdicts and request. A client has the
same bytes from both if no verdict refuses. After a refusal it has the envelope, and in front of it
the same lines up to a line with text; where the cuts show is in how many of the blank lines
behind that line are among them, and these are the ones that came in its chunk. -/
theorem drain_of_flatten_eq {chunks others : List Bytes} (h : others.flatten = chunks.flatten) :
    let x := ((drain c (attach c guard) (chunks.map .chunk)).run judge s).1
    let y := ((drain c (attach c guard) (others.map .chunk)).run judge s).1
    (drain c (attach c guard) (others.map .chunk)).exchanges judge s =
        (drain c (attach c guard) (chunks.map .chunk)).exchanges judge s ∧
      y.2.request = x.2.request ∧
      (x.2.request.payload = none → bytesOf x.1 = chunks.flatten ∧ bytesOf y.1 = chunks.flatten) ∧
      ∀ payload, x.2.request.payload = some payload → ∃ n blanks,
        bytesOf x.1 = (linesFor n chunks).flatten ++ payload ∧
        bytesOf y.1 = (linesFor n others).flatten ++ payload ∧
        IsUpTo n (linesOf chunks.flatten) (linesFor n chunks) ∧
        IsUpTo n (linesOf chunks.flatten) (linesFor n others) ∧
        (∀ line ∈ blanks, hasText line = false) ∧
        (linesFor n chunks = linesFor n others ++ blanks ∨
          linesFor n others = linesFor n chunks ++ blanks) := by
  intro x y
  have hsized := sized_settled_of_flatten_eq c guard h
  have hrun := congrArg (fun m => (m.run judge s).1) hsized
  have hexchanges := congrArg (fun m => m.exchanges judge s) hsized
  simp only [sized, Consult.run_bind, Consult.run_done, Prod.mk.injEq] at hrun
  simp only [sized, Consult.exchanges_bind, Consult.exchanges_done, List.append_nil] at hexchanges
  obtain ⟨hsettled, hlength⟩ := hrun
  have hrequest : y.2.request = x.2.request := by
    rw [(run_drain c guard (others.map .chunk) judge s).2.1, hsettled,
      ← (run_drain c guard (chunks.map .chunk) judge s).2.1]
  refine ⟨?_, hrequest, fun hnone => ⟨?_, ?_⟩, fun payload hpayload => ?_⟩
  · rw [exchanges_drain, exchanges_drain, hexchanges]
  · exact bytesOf_drain_of_unblocked c guard judge s chunks hnone
  · rw [← h]
    exact bytesOf_drain_of_unblocked c guard judge s others
      ((congrArg Request.payload hrequest).trans hnone)
  · -- both runs release as many pieces, and so the same number of frames before the envelope
    have hx := bytesOf_drain_of_blocked c guard judge s chunks hpayload
    have hy := bytesOf_drain_of_blocked c guard judge s others
      ((congrArg Request.payload hrequest).trans hpayload)
    dsimp only at hx hy
    rw [hlength] at hy
    have hchunks := isUpTo_linesFor
      (((settled c guard (chunks.map .chunk)).run judge s).1.2.length - 1) chunks
    have hothers := isUpTo_linesFor
      (((settled c guard (chunks.map .chunk)).run judge s).1.2.length - 1) others
    rw [h] at hothers
    obtain ⟨blanks, hblanks, hbehind⟩ := hchunks.blanks hothers
    exact ⟨_, blanks, hx, hy, hchunks, hothers, hblanks, hbehind⟩

end Run

/-- A checker whose verdict depends on the number of the question and on its text. -/
def byIndex (verdict : Nat → String → Verdict) : Consult.Judge Nat :=
  fun n q => (verdict n q.text, n + 1)

/-- The first text passes, and the second does not. -/
def secondRefused : Nat → String → Verdict := fun n _ =>
  if n = 0 then .pass else .block "found" "scripted"

/-- Two events in one chunk. -/
def blankEarly : List Bytes := [deltaEvent "a" ++ deltaEvent "b"]

/-- The same bytes, cut between the first event and its blank line. -/
def blankLate : List Bytes :=
  [(deltaEvent "a").dropLast.dropLast, Utf8.ofText "\r\n" ++ deltaEvent "b"]

theorem drain_of_flatten_eq_blankLate :
    let x := ((drain narrowSettings (attach narrowSettings ⟨0, false⟩)
      (blankEarly.map .chunk)).run (byIndex secondRefused) 0).1
    let y := ((drain narrowSettings (attach narrowSettings ⟨0, false⟩)
      (blankLate.map .chunk)).run (byIndex secondRefused) 0).1
    let payload := (Envelope.responseViolation "found").bytes
    blankLate.flatten = blankEarly.flatten ∧ x.2.request.payload = some payload ∧
      y.2.request = x.2.request ∧
      ∃ n, bytesOf x.1 = (linesFor n blankEarly).flatten ++ payload ∧
        bytesOf y.1 = (linesFor n blankLate).flatten ++ payload := by
  have hcuts : blankLate.flatten = blankEarly.flatten := by decide +kernel
  have hpayload : ((drain narrowSettings (attach narrowSettings ⟨0, false⟩)
      (blankEarly.map .chunk)).run (byIndex secondRefused) 0).1.2.request.payload =
        some (Envelope.responseViolation "found").bytes := by
    decide +kernel
  obtain ⟨-, hrequest, -, hblocked⟩ :=
    drain_of_flatten_eq narrowSettings ⟨0, false⟩ (byIndex secondRefused) 0 hcuts
  obtain ⟨n, -, hx, hy, -⟩ := hblocked _ hpayload
  exact ⟨hcuts, hpayload, hrequest, n, hx, hy⟩

/-- A blank line that comes a chunk later is not released. -/
theorem bytesOf_blankLate_ne :
    ¬ ∀ (c : ContentSecurity) (guard : Guard) (verdict : Nat → String → Verdict)
      (chunks others : List Bytes), others.flatten = chunks.flatten →
        bytesOf ((drain c (attach c guard) (others.map .chunk)).run (byIndex verdict) 0).1.1 =
          bytesOf ((drain c (attach c guard) (chunks.map .chunk)).run (byIndex verdict) 0).1.1 := by
  intro hsame
  have hcuts : blankLate.flatten = blankEarly.flatten := by decide +kernel
  have hne : bytesOf ((drain narrowSettings (attach narrowSettings ⟨0, false⟩)
        (blankLate.map .chunk)).run (byIndex secondRefused) 0).1.1 ≠
      bytesOf ((drain narrowSettings (attach narrowSettings ⟨0, false⟩)
        (blankEarly.map .chunk)).run (byIndex secondRefused) 0).1.1 := by
    decide +kernel
  exact hne (hsame narrowSettings ⟨0, false⟩ secondRefused blankEarly blankLate hcuts)

/-! ### Decisions on lines -/

section Decisions

variable (c : ContentSecurity) (guard : Guard) (judge : Consult.Judge σ) (s : σ)

/-- A stream asks what the texts of its lines ask, and leaves the request and the judge as they
do. -/
theorem drain_eq_decideOn (chunks : List Bytes) :
    let decided := decideOn c guard (lineTexts chunks.flatten)
    let x := (drain c (attach c guard) (chunks.map .chunk)).run judge s
    (drain c (attach c guard) (chunks.map .chunk)).exchanges judge s = decided.exchanges judge s ∧
      x.1.2.request = (decided.run judge s).1.1 ∧ x.2 = (decided.run judge s).2 := by
  obtain ⟨-, hrequest, -, hstate⟩ := run_drain c guard (chunks.map .chunk) judge s
  have hsized := sized_settled_eq_decideOn c guard chunks
  have hexchanges := congrArg (fun m => m.exchanges judge s) hsized
  have hrun := congrArg (fun m => m.run judge s) hsized
  simp only [exchanges_sized, run_sized, Prod.mk.injEq] at hexchanges hrun
  obtain ⟨⟨hsettled, -⟩, hjudge⟩ := hrun
  refine ⟨?_, hrequest.trans hsettled, hstate.trans hjudge⟩
  rw [exchanges_drain, hexchanges]

/-- Questions, verdicts and counts of a stream are decided by the texts of its lines. Where it is
cut into chunks does not matter. -/
theorem drain_decides_by_lines (chunks : List Bytes) :
    let decided := decideOn c guard (lineTexts chunks.flatten)
    let x := (drain c (attach c guard) (chunks.map .chunk)).run judge s
    (drain c (attach c guard) (chunks.map .chunk)).exchanges judge s = decided.exchanges judge s ∧
      x.1.2.request = (decided.run judge s).1.1 ∧
      ∀ others : List Bytes, others.flatten = chunks.flatten →
        let y := (drain c (attach c guard) (others.map .chunk)).run judge s
        (drain c (attach c guard) (others.map .chunk)).exchanges judge s =
            (drain c (attach c guard) (chunks.map .chunk)).exchanges judge s ∧
          y.1.2.request.batches = x.1.2.request.batches ∧
          y.1.2.request.checks = x.1.2.request.checks ∧
          y.1.2.request.isBlocked = x.1.2.request.isBlocked ∧
          y.1.2.request.payload = x.1.2.request.payload ∧ y.2 = x.2 := by
  intro decided x
  obtain ⟨hexchanges, hrequest, hstate⟩ := drain_eq_decideOn c guard judge s chunks
  refine ⟨hexchanges, hrequest, fun others h => ?_⟩
  obtain ⟨hexchanges', hrequest', hstate'⟩ := drain_eq_decideOn c guard judge s others
  rw [h] at hexchanges' hrequest' hstate'
  have hsame := hrequest'.trans hrequest.symm
  exact ⟨hexchanges'.trans hexchanges.symm, congrArg Request.batches hsame,
    congrArg Request.checks hsame, congrArg Request.isBlocked hsame,
    congrArg Request.payload hsame, hstate'.trans hstate.symm⟩

end Decisions

/-- Two events, the second one without its line end. -/
def openBody : Bytes := deltaEvent "a€" ++ (deltaEvent "b").take 44

/-- The same bytes, cut inside a character. -/
def openBodyCut : List Bytes := [openBody.take 40, [], openBody.drop 40]

theorem drain_decides_by_lines_openBodyCut :
    let x := (drain narrowSettings (attach narrowSettings ⟨0, false⟩)
      ([openBody].map .chunk)).run (byIndex secondRefused) 0
    let y := (drain narrowSettings (attach narrowSettings ⟨0, false⟩)
      (openBodyCut.map .chunk)).run (byIndex secondRefused) 0
    openBodyCut.flatten = [openBody].flatten ∧
      x.1.2.request.payload = some (Envelope.responseViolation "found").bytes ∧
      y.1.2.request.payload = x.1.2.request.payload ∧
      (drain narrowSettings (attach narrowSettings ⟨0, false⟩)
        (openBodyCut.map .chunk)).exchanges (byIndex secondRefused) 0 =
          [(⟨.content, "a€"⟩, .pass), (⟨.content, "b"⟩, .block "found" "scripted")] := by
  have hcuts : openBodyCut.flatten = [openBody].flatten := by decide +kernel
  have hexchanges : (drain narrowSettings (attach narrowSettings ⟨0, false⟩)
      ([openBody].map .chunk)).exchanges (byIndex secondRefused) 0 =
        [(⟨.content, "a€"⟩, .pass), (⟨.content, "b"⟩, .block "found" "scripted")] := by
    decide +kernel
  obtain ⟨-, -, hothers⟩ :=
    drain_decides_by_lines narrowSettings ⟨0, false⟩ (byIndex secondRefused) 0 [openBody]
  obtain ⟨hsame, -, -, -, hpayload, -⟩ := hothers openBodyCut hcuts
  exact ⟨hcuts, by decide +kernel, hpayload, hsame.trans hexchanges⟩

end Interceptor

end ModerationGateway.Moderation
