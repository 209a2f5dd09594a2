import ModerationGateway.Proofs.Moderation.Chunking
import ModerationGateway.Proofs.Moderation.Envelopes
import ModerationGateway.Proofs.Stream.Content
import ModerationGateway.Proofs.Stream.Grouping

/-!
# The line of a payload

A refused stream ends with an envelope. What is released before it are whole lines, so that a client
that reads line by line finds the envelope on a line of its own. There is one exception: an
unterminated last line that fills its batch is released before the check of the end is made, and
when that check refuses, the envelope is written behind it on the same line.

* `Round.exists_last_of_isChecked`: a check of a round without frames is a check of the end;
* `Course.releasable`, `Course.flatMap_raws_prefix`: what can be released are the frames of complete
  lines, and the frame of the unterminated one if the stream does not fail;
* `IsAfterOpenLine`, `isAfterOpenLine_of_not_endsLine`: the exception, and that there is no other;
* `payload_line`: where the payload of a stream stands;
* `payload_behind_openEnd`: a payload behind an open line.
-/

namespace ModerationGateway.Moderation

open ModerationGateway.Stream

variable {σ : Type} {c : ContentSecurity}

namespace Round

/-- A round that is refused was checked. -/
theorem isChecked_of_refused {q : Request} {judge : Consult.Judge σ} {s : σ} {r : Round}
    (hq : q.payload = none) (h : ((r.settle c q).run judge s).1.1.isBlocked = true) :
    r.isChecked c q = true := by
  by_contra hunchecked
  rw [settle_eq hq, if_neg hunchecked] at h
  simp [Request.isBlocked, hq] at h

/-- A check of a round without frames is a check of the end. -/
theorem exists_last_of_isChecked {q : Request} {r : Round} (hr : r.batch = [])
    (h : r.isChecked c q = true) : (∃ rest, r = .last rest) ∧ c.tailCheck = true := by
  have hdue : (r.intake q).2 = false := by
    rw [(r.intake_eq q).2, text, hr]
    rfl
  rw [isChecked, hdue, Bool.false_or] at h
  cases r with
  | full batch => exact absurd h Bool.false_ne_true
  | last rest => exact ⟨⟨rest, rfl⟩, (Bool.and_eq_true_iff.1 h).1⟩

end Round

namespace Course

/-- The frames that may be released: those of complete lines, and the one of the unterminated line
unless the stream fails. -/
def releasable (chunks : List Bytes) : Option String → List Frame
  | none => framesOf chunks
  | some _ => (Assembler.empty.feedAll chunks).2

/-- The pieces of the rounds are those of frames from the start. -/
theorem flatMap_raws_prefix (c : ContentSecurity) (chunks : List Bytes) (failure : Option String) :
    (ofArrivals c (arrivalsOf chunks failure)).rounds.flatMap Round.raws <+:
      Batch.raws (releasable chunks failure) := by
  cases failure with
  | none =>
    rw [arrivalsOf, Option.toList_none, List.map_nil, List.append_nil, flatMap_raws]
    exact List.prefix_rfl
  | some message =>
    have hframes :=
      (Batcher.ofSize c.batchSize.toNat).flatten_pushAll (Assembler.empty.feedAll chunks).2
    have hraws := congrArg Batch.raws hframes
    rw [Batcher.queue_ofSize, List.nil_append, Batch.raws_append] at hraws
    rw [ofArrivals, arrivalsOf, of_chunks, releasable]
    simp only [of, Option.toList_some, List.map_singleton, List.append_nil, flatMap_raws_full]
    exact ⟨_, hraws⟩

/-- The end of a stream comes last. -/
theorem eq_of_last_mem {chunks : List Bytes} {rest : Option Batch}
    (h : Round.last rest ∈ (ofArrivals c (chunks.map .chunk)).rounds) :
    rest = ((Batcher.ofSize c.batchSize.toNat).pushAll (framesOf chunks)).1.finish.2 := by
  rw [rounds_of_chunks, roundsOf, List.mem_append, List.mem_map, List.mem_singleton] at h
  rcases h with ⟨_, _, ⟨⟩⟩ | h
  exact Round.last.inj h

end Course

theorem length_framesOf (chunks : List Bytes) :
    (framesOf chunks).length = (lineTexts chunks.flatten).length := by
  rw [← Assembler.frameTexts_eq chunks, Assembler.frameTexts, List.length_map]
  rfl

namespace Interceptor

/-- The bytes of complete lines leave no line open. -/
theorem endsLine_of_prefix_feedAll {chunks : List Bytes} {released : List Bytes}
    (h : released <+: Batch.raws (Assembler.empty.feedAll chunks).2) :
    EndsLine released.flatten := by
  refine endsLine_flatten fun piece hpiece => ?_
  obtain ⟨f, hf, rfl⟩ := List.mem_map.1 (h.subset hpiece)
  exact ((Assembler.isClean_empty.feedAll chunks).1 f hf).ends

/-- The refusal comes behind an open line: the answer ends in a line with text and without line
feed, which fills its batch, and the check of the end, which is the one that refuses, is made when
the whole answer has been released. -/
structure IsAfterOpenLine (c : ContentSecurity) (chunks : List Bytes) (failure : Option String)
    (released : List Bytes) : Prop where
  ended : failure = none
  tailed : c.tailCheck = true
  unterminated : (lineText? (cutLines chunks.flatten).2).isSome
  filled : max c.batchSize.toNat 1 ∣ (lineTexts chunks.flatten).length
  released_all : released.flatten = chunks.flatten

theorem IsAfterOpenLine.not_endsLine {chunks : List Bytes} {failure : Option String}
    {released : List Bytes} (h : IsAfterOpenLine c chunks failure released) :
    ¬ EndsLine released.flatten := by
  rw [h.released_all, endsLine_iff]
  intro hrest
  have hline := h.unterminated
  rw [hrest] at hline
  exact absurd hline (by decide)

variable {guard : Guard} {chunks : List Bytes} {failure : Option String}
  {judge : Consult.Judge σ} {s : σ} {before after : List Round} {r : Round}

/-- If what is released leaves a line open, it is the whole answer, and nothing was left to decide
on but its end. -/
theorem exists_frame_of_not_endsLine
    (hrounds : (Course.ofArrivals c (arrivalsOf chunks failure)).rounds = before ++ r :: after)
    (hopen : ¬ EndsLine (before.flatMap Round.raws).flatten) :
    failure = none ∧ (Assembler.empty.feedAll chunks).1.finish.2.frame.isSome ∧
      before.flatMap Round.raws = Batch.raws (framesOf chunks) ∧ r.batch = [] := by
  have hraws := Course.flatMap_raws_prefix c chunks failure
  rw [hrounds, List.flatMap_append, List.flatMap_cons] at hraws
  have hbefore := (List.prefix_append _ _).trans hraws
  cases failure with
  | some message => exact absurd (endsLine_of_prefix_feedAll hbefore) hopen
  | none =>
    cases hframe : (Assembler.empty.feedAll chunks).1.finish.2.frame with
    | none =>
      rw [Course.releasable, framesOf, hframe, Option.toList_none, List.append_nil] at hbefore
      exact absurd (endsLine_of_prefix_feedAll hbefore) hopen
    | some f =>
      have hframes : Batch.raws (framesOf chunks) =
          Batch.raws (Assembler.empty.feedAll chunks).2 ++ [f.raw] := by
        rw [framesOf, hframe, Option.toList_some, Batch.raws_append]
        rfl
      -- otherwise the last frame, which is the only one that leaves a line open, is not released
      have hall : before.flatMap Round.raws = Batch.raws (framesOf chunks) := by
        rw [Course.releasable, hframes] at hbefore
        rcases List.prefix_concat_iff.1 hbefore with heq | hfed
        · rw [heq, hframes]
        · exact absurd (endsLine_of_prefix_feedAll hfed) hopen
      refine ⟨rfl, rfl, hall, ?_⟩
      rw [hall, Course.releasable] at hraws
      have hlength := hraws.length_le
      rw [List.length_append, List.length_append] at hlength
      have hnone : r.raws = [] := List.length_eq_zero_iff.1 (by omega)
      exact List.map_eq_nil_iff.1 hnone

/-- Only a refusal at the end can come behind an open line. -/
theorem isAfterOpenLine_of_not_endsLine
    (hrounds : (Course.ofArrivals c (arrivalsOf chunks failure)).rounds = before ++ r :: after)
    (hr : RefusedAt c guard judge s before r)
    (hopen : ¬ EndsLine (before.flatMap Round.raws).flatten) :
    IsAfterOpenLine c chunks failure (before.flatMap Round.raws) := by
  obtain ⟨rfl, hframe, hall, hbatch⟩ := exists_frame_of_not_endsLine hrounds hopen
  obtain ⟨hunblocked, hblocked⟩ := hr
  have hchecked := Round.isChecked_of_refused (Request.isBlocked_eq_false_iff.1 hunblocked) hblocked
  obtain ⟨⟨rest, rfl⟩, htail⟩ := Round.exists_last_of_isChecked hbatch hchecked
  rw [arrivalsOf, Option.toList_none, List.map_nil, List.append_nil] at hrounds
  refine ⟨rfl, htail, ?_, ?_, ?_⟩
  · rw [← Assembler.isSome_frame_finish]
    exact hframe
  · -- no frame waits when the end of the answer is checked
    have hlast : Round.last rest ∈ (Course.ofArrivals c (chunks.map .chunk)).rounds := by
      rw [hrounds]
      exact List.mem_append_right _ List.mem_cons_self
    have hqueue : ((Batcher.ofSize c.batchSize.toNat).pushAll (framesOf chunks)).1.queue = [] := by
      rw [← Batcher.getD_finish, ← Course.eq_of_last_mem hlast]
      exact hbatch
    rw [← length_framesOf]
    exact (Batcher.queue_pushAll_eq_nil_iff _ _).1 hqueue
  · have hbytes := Assembler.bytes_feedAll .empty chunks
    have hfinish := (Assembler.empty.feedAll chunks).1.bytes_finish
    have htrailing : (Assembler.empty.feedAll chunks).1.finish.2.trailing = [] := by
      refine Assembler.trailing_of_frame ?_
      obtain ⟨f, hf⟩ := Option.isSome_iff_exists.1 hframe
      rw [hf]
      exact Nat.zero_lt_one
    rw [htrailing, List.append_nil] at hfinish
    rw [hall, Batch.flatten_raws, framesOf, Batch.bytes_append, hfinish, hbytes,
      Assembler.held_empty, List.nil_append]

/-- The payload of a stream is the envelope of its last verdict, and a client that reads it has that
envelope. It is a line of its own exactly if what was released before it leaves no line open, and
that is so unless the refusal comes behind an open line. -/
theorem payload_line (c : ContentSecurity) (guard : Guard) (chunks : List Bytes)
    (failure : Option String) (judge : Consult.Judge σ) (s : σ) {payload : Bytes}
    (h : ((stream c guard chunks failure).run judge s).1.2.request.payload = some payload) :
    let items := ((stream c guard chunks failure).run judge s).1.1
    ∃ released e earlier x, items = released.map .ok ++ [.ok payload] ∧
      (stream c guard chunks failure).exchanges judge s = earlier ++ [x] ∧
      x.2.refusal? c.failurePolicy = some e ∧ payload = e.bytes ∧
      (Json.ofBytes? payload).bind Envelope.ofJson? = some e ∧
      (((bytesOf items).splitOn lineFeed).getLast? = some payload ↔
        EndsLine released.flatten) ∧
      (EndsLine released.flatten ↔ ¬ IsAfterOpenLine c chunks failure released) := by
  intro items
  obtain ⟨released, hshape⟩ := exists_isShaped c guard chunks failure judge s
  obtain ⟨e, earlier, x, rfl, hexchanges, -, hx⟩ := hshape.payload payload h
  have hcode := Envelope.codeInRange_of_refusal? hx
  have hitems : items = released.map .ok ++ [.ok e.bytes] := by
    have hshown := hshape.items
    rwa [h] at hshown
  obtain ⟨before, r, after, hrounds, hr⟩ := hshape.blocked.1 (by simp [Request.isBlocked, h])
  have hbytes : bytesOf items = released.flatten ++ e.bytes := by
    rw [hitems, bytesOf_append, bytesOf_map_ok]
    simp [bytesOf]
  refine ⟨released, e, earlier, x, hitems, hexchanges, hx, rfl, Envelope.bind_ofBytes?_bytes hcode,
    ?_, fun hends hafter => hafter.not_endsLine hends, fun hafter => ?_⟩
  · rw [hbytes]
    exact getLast?_splitOn_append _ (Envelope.lineFeed_not_mem_bytes hcode)
  · by_contra hopen
    rw [hshape.released before r after hrounds hr] at hafter hopen
    exact hafter (isAfterOpenLine_of_not_endsLine hrounds hr hopen)

theorem payload_line_blankEarly :
    let items := ((stream narrowSettings ⟨0, false⟩ blankEarly none).run
      (byIndex secondRefused) 0).1.1
    let payload := (Envelope.responseViolation "found").bytes
    ((stream narrowSettings ⟨0, false⟩ blankEarly none).run
        (byIndex secondRefused) 0).1.2.request.payload = some payload ∧
      ((bytesOf items).splitOn lineFeed).getLast? = some payload := by
  intro items payload
  have hpayload : ((stream narrowSettings ⟨0, false⟩ blankEarly none).run
      (byIndex secondRefused) 0).1.2.request.payload = some payload := by
    decide +kernel
  have hends : lineText? (cutLines blankEarly.flatten).2 = none := by decide +kernel
  obtain ⟨released, e, earlier, x, -, -, -, -, -, hline, hwhole⟩ :=
    payload_line narrowSettings ⟨0, false⟩ blankEarly none (byIndex secondRefused) 0 hpayload
  have hwhole : EndsLine released.flatten := hwhole.2 fun hafter =>
    Bool.noConfusion (hends ▸ hafter.unterminated)
  exact ⟨hpayload, hline.2 hwhole⟩

/-- A window that two characters do not fill, one frame to a batch, and a check of the end. -/
def wideSettings : ContentSecurity := { narrowSettings with windowSize := 10 }

/-- Two events, the second one without its line end. -/
def openEnd : List Bytes := [deltaEvent "a", (deltaEvent "b").take 44]

/-- The check of the end refuses when the last line has been released without a line feed. A client
that reads line by line finds the envelope behind that line, and no envelope at all. -/
theorem payload_behind_openEnd :
    let x := (stream wideSettings ⟨0, false⟩ openEnd none).run (byIndex secondRefused) 0
    let payload := (Envelope.responseViolation "found").bytes
    x.1.2.request.payload = some payload ∧ x.1.1 = openEnd.map .ok ++ [.ok payload] ∧
      ¬ EndsLine openEnd.flatten ∧
      ∃ line, ((bytesOf x.1.1).splitOn lineFeed).getLast? = some line ∧ line ≠ payload ∧
        (Json.ofBytes? line).bind Envelope.ofJson? = none := by
  intro x payload
  have hpayload : x.1.2.request.payload = some payload := by decide +kernel
  have hitems : x.1.1 = openEnd.map .ok ++ [.ok payload] := by decide +kernel
  have hopen : ¬ EndsLine openEnd.flatten := by decide +kernel
  refine ⟨hpayload, hitems, hopen, (deltaEvent "b").take 44 ++ payload, ?_, ?_, ?_⟩
  · rw [hitems]
    decide +kernel
  · decide +kernel
  · decide +kernel

end Interceptor

end ModerationGateway.Moderation
