import ModerationGateway.Proofs.Json.Documents
import ModerationGateway.Proofs.Stream.Lines
import ModerationGateway.Proofs.Text.Utf8
import ModerationGateway.Stream.Batch

/-!
# Event streams, written and read

A piece of an answer is written as a JSON document on an event line of its own. Whatever characters
it holds, the line has no line end inside it and no blank at its end, so that the frames of the
stream are the event lines, and each gives back the piece that was written.

* `deltaDocument`, `eventLine`, `eventBody`: the document, the line and the stream of some pieces;
* `eventData?_markedLine`, `delta?_eventLine`: what is read from a line;
* `decodeLine_encode`, `lineTexts_encode_lines`: the lines of a stream of visible characters;
* `Assembler.deltas_eventBody`: what is read from the frames of a stream, wherever it is cut.
-/

namespace ModerationGateway.Chat

open ModerationGateway.Text

/-! ### Lines -/

/-- The document that carries a piece of an answer. -/
def deltaDocument (text : String) : Json :=
  .object [("choices", .array [.object [("delta", .object [("content", .string text)])]])]

/-- The line with a payload. -/
def markedLine (payload : List Char) : List Char := dataMark ++ ' ' :: payload

/-- The line that carries a piece of an answer. -/
def eventLine (text : String) : List Char := markedLine (deltaDocument text).render

/-- The line that says that the stream is over. -/
def doneLine : List Char := markedLine doneMark

/-- The lines of a stream that brings these pieces, each with an empty line behind it. -/
def eventBody (texts : List String) : List Char :=
  (texts.map eventLine ++ [doneLine]).flatMap fun line => line ++ ['\n', '\n']

/-- A document begins and ends with a brace. -/
theorem exists_render_deltaDocument (text : String) :
    ∃ cs, (deltaDocument text).render = '\x7b' :: (cs ++ ['\x7d']) :=
  ⟨_, rfl⟩

/-- A payload in visible characters is read as it is written. -/
theorem eventData?_markedLine {c d : Char} (hc : isBlank c = false) (hd : isBlank d = false)
    {cs : List Char} (hdone : c :: (cs ++ [d]) ≠ doneMark) :
    eventData? (markedLine (c :: (cs ++ [d]))) = some (c :: (cs ++ [d])) := by
  have hline : trim (markedLine (c :: (cs ++ [d]))) = markedLine (c :: (cs ++ [d])) :=
    trim_of_ends (c := 'd') (by decide) hd ('a' :: 't' :: 'a' :: ':' :: ' ' :: c :: cs)
  have hrest : afterMark? dataMark (markedLine (c :: (cs ++ [d]))) =
      some (' ' :: c :: (cs ++ [d])) := by
    simp [afterMark?, markedLine]
  have hpayload : trim (' ' :: c :: (cs ++ [d])) = c :: (cs ++ [d]) := by
    rw [trim_cons_of_isBlank (by decide), trim_of_ends hc hd]
  simp only [eventData?, hline, hrest, hpayload]
  simp [hdone]

theorem isPlain_deltaDocument (text : String) :
    Json.IsPlain Json.maxDepth (deltaDocument text) := by
  simp [deltaDocument, Json.maxDepth, Json.IsPlain, Json.ArePlain, Json.HavePlain]

theorem normal_deltaDocument (text : String) :
    (deltaDocument text).normal = deltaDocument text := by
  simp [deltaDocument, Json.normal, Json.normalItems, Json.normalFields, Json.ofFields,
    Json.insertField]

theorem choiceText?_deltaDocument (text : String) :
    choiceText? "delta" (deltaDocument text) = some text := rfl

/-- An event line adds the piece that it was written for. -/
theorem delta?_eventLine (text : String) : delta? (String.ofList (eventLine text)) = some text := by
  have hread : eventData? (eventLine text) = some (deltaDocument text).render := by
    obtain ⟨cs, hcs⟩ := exists_render_deltaDocument text
    rw [eventLine, hcs]
    exact eventData?_markedLine (by decide) (by decide) (by simp [doneMark])
  simp [delta?, hread, Json.parse?_render (isPlain_deltaDocument text), normal_deltaDocument,
    choiceText?_deltaDocument]

/-- The line that ends the stream adds nothing. -/
theorem delta?_doneLine : delta? (String.ofList doneLine) = none := by
  decide

theorem isVisible_eventLine (text : String) : Json.IsVisible (eventLine text) :=
  (show Json.IsVisible dataMark by decide).append
    ((Json.isVisible_render _ (isPlain_deltaDocument text)).cons (by decide))

theorem isBlankText_markedLine (payload : List Char) : isBlankText (markedLine payload) = false :=
  rfl

end ModerationGateway.Chat

namespace ModerationGateway.Stream

open ModerationGateway.Json (IsVisible)

/-! ### Lines as bytes -/

theorem le_toNat_of_isVisible {cs : List Char} (h : IsVisible cs) {b : UInt8}
    (hb : b ∈ Utf8.encode cs) : 0x20 ≤ b.toNat :=
  Utf8.le_toNat_of_mem_encode (by decide) h hb

theorem lineFeed_not_mem_encode {cs : List Char} (h : IsVisible cs) :
    lineFeed ∉ Utf8.encode cs := by
  intro hmem
  exact absurd (le_toNat_of_isVisible h hmem) (by decide)

/-- Visible characters have no carriage return at their end and are decoded as they are. -/
theorem decodeLine_encode {cs : List Char} (h : IsVisible cs) :
    decodeLine (Utf8.encode cs) = cs := by
  have hreturn : (Utf8.encode cs).getLast? ≠ some 13 := by
    intro hlast
    exact absurd (le_toNat_of_isVisible h (List.mem_of_getLast? hlast)) (by decide)
  rw [decodeLine, dropReturn, if_neg hreturn, Utf8.decodeLossy_encode]

/-- The first line of a stream is the bytes up to the first line feed. -/
theorem lineTexts_append_lineFeed {line : Bytes} (h : lineFeed ∉ line) (rest : Bytes) :
    lineTexts (line ++ lineFeed :: rest) = (lineText? line).toList ++ lineTexts rest := by
  have hcut : cutLines (line ++ lineFeed :: rest) =
      ((line ++ [lineFeed]) :: (cutLines rest).1, (cutLines rest).2) := by
    rw [cutLines_append_of_not_mem h, cutLines]
    simp
  rw [lineTexts_eq_append, hcut, lineTexts_eq_append, textsOf, List.filterMap_cons,
    List.dropLast_concat, ← List.append_assoc]
  cases lineText? line <;> rfl

/-- Lines of visible characters with an empty line behind each are found again. -/
theorem lineTexts_encode_lines {lines : List (List Char)}
    (hvisible : ∀ line ∈ lines, IsVisible line)
    (htext : ∀ line ∈ lines, Text.isBlankText line = false) :
    lineTexts (Utf8.encode (lines.flatMap fun line => line ++ ['\n', '\n'])) =
      lines.map String.ofList := by
  induction lines with
  | nil => rfl
  | cons line lines ih =>
    rw [List.forall_mem_cons] at hvisible htext
    have hbytes : Utf8.encode ((line :: lines).flatMap fun line => line ++ ['\n', '\n']) =
        Utf8.encode line ++ lineFeed :: ([] ++ lineFeed ::
          Utf8.encode (lines.flatMap fun line => line ++ ['\n', '\n'])) := by
      simp [Utf8.encode, show String.utf8EncodeChar '\n' = [lineFeed] by decide]
    have hline : lineText? (Utf8.encode line) = some (String.ofList line) := by
      rw [lineText?, decodeLine_encode hvisible.1, htext.1]
      rfl
    rw [hbytes, lineTexts_append_lineFeed (lineFeed_not_mem_encode hvisible.1),
      lineTexts_append_lineFeed List.not_mem_nil, hline, lineText?_nil, ih hvisible.2 htext.2]
    rfl

theorem lineTexts_eventBody (texts : List String) :
    lineTexts (Utf8.encode (Chat.eventBody texts)) =
      (texts.map Chat.eventLine ++ [Chat.doneLine]).map String.ofList := by
  refine lineTexts_encode_lines ?_ ?_ <;>
    simp only [List.forall_mem_append, List.forall_mem_map, List.forall_mem_singleton]
  · exact ⟨fun text _ => Chat.isVisible_eventLine text, by decide⟩
  · exact ⟨fun text _ => Chat.isBlankText_markedLine _, Chat.isBlankText_markedLine _⟩

/-! ### Frames -/

/-- The texts of batches, one after the other, do not show how the frames were grouped. -/
theorem join_delta (batches : List Batch) :
    String.join (batches.map Batch.delta) = Batch.delta batches.flatten := by
  induction batches with
  | nil => rfl
  | cons batch batches ih =>
    rw [List.map_cons, String.join_cons, ih, List.flatten_cons, Batch.delta, Batch.delta,
      Batch.delta, List.filterMap_append, String.join_append]

namespace Assembler

/-- The frames of an event stream are its lines, wherever its bytes are cut into chunks. They give
back the pieces that were written, in order, and nothing for the line that ends the stream; and the
batches that they are grouped into add these pieces to the answer. -/
theorem deltas_eventBody (texts : List String) (chunks : List Bytes)
    (h : chunks.flatten = Utf8.encode (Chat.eventBody texts)) :
    let frames := (empty.feedAll chunks).2 ++ (empty.feedAll chunks).1.finish.2.frame.toList
    frames.length = texts.length + 1 ∧
      frames.map (fun frame => Chat.delta? frame.text) = texts.map some ++ [none] ∧
      ∀ batches : List Batch, batches.flatten = frames →
        String.join (batches.map Batch.delta) = String.join texts := by
  intro frames
  have htexts : frames.map (·.text) =
      (texts.map Chat.eventLine ++ [Chat.doneLine]).map String.ofList := by
    rw [← lineTexts_eventBody, ← h]
    exact frameTexts_eq chunks
  have hdeltas : frames.map (fun frame => Chat.delta? frame.text) = texts.map some ++ [none] := by
    calc frames.map (fun frame => Chat.delta? frame.text)
        = (frames.map (·.text)).map Chat.delta? := by rw [List.map_map]; rfl
      _ = texts.map some ++ [none] := by
        rw [htexts]
        simp [Function.comp_def, Chat.delta?_eventLine, Chat.delta?_doneLine]
  refine ⟨?_, hdeltas, ?_⟩
  · have hlength := congrArg List.length hdeltas
    simpa using hlength
  · intro batches hbatches
    rw [join_delta, hbatches, Batch.delta]
    have hpieces : frames.filterMap (fun frame => Chat.delta? frame.text) = texts := by
      calc frames.filterMap (fun frame => Chat.delta? frame.text)
          = (frames.map fun frame => Chat.delta? frame.text).filterMap id := by
            rw [List.filterMap_map]; rfl
        _ = texts := by rw [hdeltas]; simp
    rw [hpieces]

/-- Pieces with a line feed, a quote and a backslash. -/
def awkwardPieces : List String := ["a\n€", "\"\\"]

/-- Their stream, cut twice inside the euro sign. -/
def awkwardChunks : List Bytes :=
  let body := Utf8.encode (Chat.eventBody awkwardPieces)
  [body.take 43, (body.drop 43).take 1, body.drop 44]

theorem deltas_awkwardChunks :
    awkwardChunks.flatten = Utf8.encode (Chat.eventBody awkwardPieces) ∧
      ((empty.feedAll awkwardChunks).2 ++
        (empty.feedAll awkwardChunks).1.finish.2.frame.toList).map
          (fun frame => Chat.delta? frame.text) = [some "a\n€", some "\"\\", none] := by
  have hbytes : awkwardChunks.flatten = Utf8.encode (Chat.eventBody awkwardPieces) := by
    decide +kernel
  exact ⟨hbytes, (deltas_eventBody awkwardPieces awkwardChunks hbytes).2.1⟩

end Assembler

end ModerationGateway.Stream
