import ModerationGateway.Proofs.Stream.Conservation
import ModerationGateway.Proofs.Text.Lines

/-!
# The lines of a stream

Where a stream is cut into chunks does not show in the texts of its frames. They are the lines of
the whole stream, each without the carriage return at its end, less the blank ones.

* `lineTexts`: the texts of the lines of a byte string;
* `cutLines_append`: the complete lines of two byte strings put together;
* `Assembler.IsScanned`: between two chunks the unterminated line holds no line feed;
* `Assembler.cut_eq`: searching only what is not scanned yet finds the same lines;
* `Assembler.frameTexts`, `frameTexts_eq_lineTexts`: the texts of the frames of a stream.
-/

namespace ModerationGateway.Stream

/-- The texts of the lines of a byte string. A line feed ends a line, and what stands behind the
last one is a line as well; lines that are blank do not count. -/
def lineTexts (bs : Bytes) : List String :=
  (((bs.splitOn lineFeed).map fun line => Utf8.decodeLossy (dropReturn line)).filter
    fun text => Text.trim text ≠ []).map String.ofList

/-- The text of a line without its line feed, unless it is blank. -/
def lineText? (line : Bytes) : Option String :=
  if Text.isBlankText (decodeLine line) then none else some (String.ofList (decodeLine line))

@[simp] theorem lineText?_nil : lineText? [] = none := rfl

/-- The texts of complete lines, each with its line feed. -/
def textsOf (lines : List Bytes) : List String :=
  lines.filterMap fun line => lineText? line.dropLast

@[simp] theorem textsOf_append (lines more : List Bytes) :
    textsOf (lines ++ more) = textsOf lines ++ textsOf more := by
  simp [textsOf]

theorem lineTexts_eq_filterMap (bs : Bytes) :
    lineTexts bs = (bs.splitOn lineFeed).filterMap lineText? := by
  have hblank (line : Bytes) : Text.trim (Utf8.decodeLossy (dropReturn line)) = [] ↔
      Text.isBlankText (decodeLine line) = true := Text.trim_eq_nil_iff _
  rw [lineTexts]
  induction bs.splitOn lineFeed with
  | nil => rfl
  | cons line lines ih =>
    rw [List.map_cons, List.filterMap_cons, List.filter_cons]
    by_cases h : Text.isBlankText (decodeLine line) = true
    · simp only [ne_eq, (hblank line).2 h, not_true, decide_false, Bool.false_eq_true, if_false,
        lineText?, h, if_true]
      exact ih
    · simp only [ne_eq, mt (hblank line).1 h, not_false_eq_true, decide_true, if_true, lineText?, h,
        Bool.false_eq_true, if_false, List.map_cons]
      exact congrArg _ ih

/-! ### Cutting at line feeds -/

/-- Bytes without a line feed are the beginning of a line. -/
theorem cutLines_append_of_not_mem {xs : Bytes} (h : lineFeed ∉ xs) (ys : Bytes) :
    cutLines (xs ++ ys) =
      match cutLines ys with
      | ([], rest) => ([], xs ++ rest)
      | (line :: lines, rest) => ((xs ++ line) :: lines, rest) := by
  induction xs with
  | nil =>
    cases hys : cutLines ys with
    | mk lines rest => cases lines <;> simp [hys]
  | cons x xs ih =>
    have hx : x ≠ lineFeed := fun hx => h (by simp [hx])
    have hxs : lineFeed ∉ xs := fun hxs => h (by simp [hxs])
    rw [List.cons_append, cutLines, ih hxs]
    cases hys : cutLines ys with
    | mk lines rest => cases lines <;> simp [hx]

theorem cutLines_of_not_mem {bs : Bytes} (h : lineFeed ∉ bs) : cutLines bs = ([], bs) := by
  simpa using cutLines_append_of_not_mem h []

/-- The complete lines of two byte strings put together: those of the first, and those that the
second makes of what is left of the first. -/
theorem cutLines_append (xs ys : Bytes) :
    cutLines (xs ++ ys) =
      ((cutLines xs).1 ++ (cutLines ((cutLines xs).2 ++ ys)).1,
        (cutLines ((cutLines xs).2 ++ ys)).2) := by
  induction xs with
  | nil => simp
  | cons x xs ih =>
    rw [List.cons_append, cutLines, ih, cutLines]
    by_cases hx : x = lineFeed
    · simp [hx]
    · cases hxs : (cutLines xs).1 with
      | nil => simp [hx, hxs, cutLines]
      | cons line lines => simp [hx, hxs]

/-- What is left behind the last line feed holds none. -/
theorem lineFeed_not_mem_cutLines (bs : Bytes) : lineFeed ∉ (cutLines bs).2 := by
  induction bs with
  | nil => simp
  | cons b bs ih =>
    rw [cutLines]
    by_cases hb : b = lineFeed
    · simpa [hb] using ih
    · cases hbs : (cutLines bs).1 with
      | nil => simpa [hb, hbs] using ⟨Ne.symm hb, ih⟩
      | cons line lines => simpa [hb, hbs] using ih

/-- What holds of the line feed alone, and is kept when a line becomes longer in front, holds of all
complete lines. -/
theorem forall_mem_cutLines {P : Bytes → Prop} (hfeed : P [lineFeed])
    (hcons : ∀ b line, b ≠ lineFeed → P line → P (b :: line)) (bs : Bytes) :
    ∀ line ∈ (cutLines bs).1, P line := by
  induction bs with
  | nil => exact List.forall_mem_nil _
  | cons b bs ih =>
    rw [cutLines]
    by_cases hb : b = lineFeed
    · simp only [hb, if_true]
      exact List.forall_mem_cons.2 ⟨hfeed, ih⟩
    · cases hbs : (cutLines bs).1 with
      | nil => simp [hb, hbs]
      | cons line lines =>
        rw [hbs, List.forall_mem_cons] at ih
        simp only [hb, if_false, hbs]
        exact List.forall_mem_cons.2 ⟨hcons b line hb ih.1, ih.2⟩

/-- A complete line ends with its line feed. -/
theorem getLast?_of_mem_cutLines {bs line : Bytes} (h : line ∈ (cutLines bs).1) :
    line.getLast? = some lineFeed := by
  refine forall_mem_cutLines (P := fun line => line.getLast? = some lineFeed) rfl ?_ bs line h
  intro b line _ hline
  rw [List.getLast?_cons, hline]
  rfl

/-- A complete line, cut again, is that line. -/
theorem cutLines_of_mem {bs line : Bytes} (h : line ∈ (cutLines bs).1) :
    cutLines line = ([line], []) := by
  refine forall_mem_cutLines (P := fun line => cutLines line = ([line], [])) rfl ?_ bs line h
  intro b line hb hline
  rw [cutLines, hline]
  simp [hb]

/-- Splitting at line feeds gives the complete lines without theirs, and the rest. -/
theorem splitOn_lineFeed (bs : Bytes) :
    bs.splitOn lineFeed = (cutLines bs).1.map List.dropLast ++ [(cutLines bs).2] := by
  induction bs with
  | nil => rfl
  | cons b bs ih =>
    rw [List.splitOn] at ih ⊢
    rw [List.splitOnP_cons_eq_if_modifyHead, ih, cutLines]
    by_cases hb : b = lineFeed
    · simp [hb]
    · cases hbs : (cutLines bs).1 with
      | nil => simp [hb, hbs]
      | cons line lines =>
        have hline : line ≠ [] := by
          rintro rfl
          have hmem : ([] : Bytes) ∈ (cutLines bs).1 := by simp [hbs]
          have hlast := getLast?_of_mem_cutLines hmem
          simp at hlast
        simp [hb, hbs, List.dropLast_cons_of_ne_nil hline]

/-- The texts of the lines of a byte string are those of its complete lines, and that of the rest
unless it is blank. -/
theorem lineTexts_eq_append (bs : Bytes) :
    lineTexts bs = textsOf (cutLines bs).1 ++ (lineText? (cutLines bs).2).toList := by
  rw [lineTexts_eq_filterMap, splitOn_lineFeed, List.filterMap_append, List.filterMap_map]
  rfl

/-! ### The frames of complete lines -/

namespace Gathering

theorem texts_add (g : Gathering) (line : Bytes) :
    (g.add line).frames.reverse.map (·.text) =
      g.frames.reverse.map (·.text) ++ (lineText? line.dropLast).toList := by
  unfold add lineText?
  dsimp only
  split
  · split
    next last earlier hf => simp [hf]
    next hf => simp [hf]
  · simp

/-- The frames of some lines have the texts of those that are not blank. -/
theorem texts_foldl_add (g : Gathering) (lines : List Bytes) :
    (lines.foldl add g).frames.reverse.map (·.text) =
      g.frames.reverse.map (·.text) ++ textsOf lines := by
  induction lines generalizing g with
  | nil => simp [textsOf]
  | cons line lines ih =>
    rw [List.foldl_cons, ih, texts_add, List.append_assoc, textsOf, textsOf, List.filterMap_cons]
    cases lineText? line.dropLast <;> rfl

end Gathering

namespace Assembler

/-- Between two chunks the unterminated line holds no line feed, and no more of it is scanned than
there is. -/
def IsScanned (a : Assembler) : Prop := a.scanned ≤ a.pending.length ∧ lineFeed ∉ a.pending

theorem isScanned_empty : empty.IsScanned := ⟨Nat.le_refl 0, List.not_mem_nil⟩

/-- Nothing is missed by searching only what is not scanned yet. -/
theorem cut_eq {a : Assembler} (h : a.IsScanned) (chunk : Bytes) :
    a.cut chunk = cutLines (a.pending ++ chunk) := by
  obtain ⟨hscanned, hpending⟩ := h
  have hknown : lineFeed ∉ (a.pending ++ chunk).take a.scanned := by
    rw [List.take_append_of_le_length hscanned]
    exact fun hmem => hpending (List.mem_of_mem_take hmem)
  have hcut := cutLines_append_of_not_mem hknown ((a.pending ++ chunk).drop a.scanned)
  rw [List.take_append_drop] at hcut
  exact hcut.symm

theorem isScanned_feed {a : Assembler} (h : a.IsScanned) (chunk : Bytes) :
    (a.feed chunk).1.IsScanned := by
  refine ⟨Nat.le_refl _, ?_⟩
  simp only [feed, cut_eq h]
  exact lineFeed_not_mem_cutLines _

theorem texts_feed (a : Assembler) (chunk : Bytes) :
    (a.feed chunk).2.map (·.text) = textsOf (a.cut chunk).1 := by
  simpa [feed] using Gathering.texts_foldl_add ⟨a.orphan, []⟩ (a.cut chunk).1

/-- What an assembler makes of chunks is what it makes of their bytes: the same texts, and the
same unterminated line. -/
theorem feedAll_spec {a : Assembler} (h : a.IsScanned) (chunks : List Bytes) :
    (a.feedAll chunks).2.map (·.text) = textsOf (cutLines (a.pending ++ chunks.flatten)).1 ∧
      (a.feedAll chunks).1.pending = (cutLines (a.pending ++ chunks.flatten)).2 ∧
      (a.feedAll chunks).1.IsScanned := by
  induction chunks generalizing a with
  | nil =>
    rw [List.flatten_nil, List.append_nil, cutLines_of_not_mem h.2]
    exact ⟨rfl, rfl, h⟩
  | cons chunk chunks ih =>
    obtain ⟨htexts, hpending, hscanned⟩ := ih (isScanned_feed h chunk)
    have hrest : (a.feed chunk).1.pending = (cutLines (a.pending ++ chunk)).2 := by
      rw [← cut_eq h]
      rfl
    rw [hrest] at htexts hpending
    rw [List.flatten_cons, ← List.append_assoc, cutLines_append, feedAll_cons]
    refine ⟨?_, hpending, hscanned⟩
    rw [List.map_append, htexts, texts_feed, cut_eq h, textsOf_append]

theorem texts_finish (a : Assembler) :
    a.finish.2.frame.toList.map (·.text) = (lineText? a.pending).toList := by
  unfold finish lineText?
  dsimp only
  split <;> rfl

/-- The texts of the frames of a stream, from its first chunk to its end. -/
def frameTexts (chunks : List Bytes) : List String :=
  ((empty.feedAll chunks).2 ++ (empty.feedAll chunks).1.finish.2.frame.toList).map (·.text)

theorem frameTexts_eq (chunks : List Bytes) : frameTexts chunks = lineTexts chunks.flatten := by
  obtain ⟨htexts, hpending, -⟩ := feedAll_spec isScanned_empty chunks
  rw [frameTexts, List.map_append, htexts, texts_finish, hpending, lineTexts_eq_append]
  rfl

/-- The frames of a stream have the texts of its lines, wherever it is cut into chunks. Two ways
of cutting the same bytes therefore give the same texts. -/
theorem frameTexts_eq_lineTexts (chunks : List Bytes) :
    frameTexts chunks = lineTexts chunks.flatten ∧
      ∀ others : List Bytes, others.flatten = chunks.flatten →
        frameTexts others = frameTexts chunks := by
  refine ⟨frameTexts_eq chunks, fun others h => ?_⟩
  rw [frameTexts_eq, frameTexts_eq, h]

/-- Two lines with a blank one between them, and an unterminated one behind them. -/
def threeLines : Bytes := Utf8.ofText "a\r\n \r\n€\nb"

/-- The same bytes, cut inside a line end and inside a character, with an empty chunk between. -/
def threeLinesCut : List Bytes :=
  [threeLines.take 2, [], (threeLines.drop 2).take 5, threeLines.drop 7]

theorem frameTexts_threeLinesCut :
    threeLinesCut.flatten = [threeLines].flatten ∧ lineTexts threeLines = ["a", "€", "b"] ∧
      frameTexts threeLinesCut = frameTexts [threeLines] := by
  have hbytes : threeLinesCut.flatten = [threeLines].flatten := by decide
  exact ⟨hbytes, by decide +kernel, (frameTexts_eq_lineTexts [threeLines]).2 threeLinesCut hbytes⟩

end Assembler

end ModerationGateway.Stream
