import Mathlib.Data.List.Infix
import ModerationGateway.Proofs.Stream.Lines

/-!
# Where blank lines go

The bytes of a blank line travel with a frame, and with which one depends on the chunks. A blank
line that is complete in the chunk that completes the line before it goes with that line; one that
comes later waits for the next frame. The first `n` frames of a stream therefore stand for all
lines up to the `n`-th one with text, and for those blank lines behind it that come in its chunk.

* `hasText`, `linesOf`: the lines of a byte string, and those that are not blank;
* `upTo`: the lines in front of the next line with text, with what an end of the lines does to it;
* `IsUpTo`, `IsUpTo.blanks`: what is settled about these lines, and that the rest is blank lines;
* `linesFor`, `isUpTo_linesFor`: the lines that the first frames of a stream stand for;
* `Assembler.bytes_take_frames`: these frames have their bytes.
-/

namespace ModerationGateway.Stream

/-- A line without its line feed, if it has one. -/
def dropFeed (line : Bytes) : Bytes :=
  if line.getLast? = some lineFeed then line.dropLast else line

/-- The line is not blank. -/
def hasText (line : Bytes) : Bool := (lineText? (dropFeed line)).isSome

/-- The lines of a byte string, each with its line feed. The last one may have none. -/
def linesOf (bs : Bytes) : List Bytes :=
  (cutLines bs).1 ++ if (cutLines bs).2 = [] then [] else [(cutLines bs).2]

/-- The lines that chunks complete. -/
def completeLines (chunks : List Bytes) : List Bytes := (cutLines chunks.flatten).1

theorem flatten_linesOf (bs : Bytes) : (linesOf bs).flatten = bs := by
  have hcut := cutLines_flatten bs
  unfold linesOf
  split
  next h => simpa [h] using hcut
  next => simpa using hcut

theorem length_textsOf {lines : List Bytes}
    (h : ∀ line ∈ lines, line.getLast? = some lineFeed) :
    (textsOf lines).length = lines.countP hasText := by
  rw [textsOf, List.length_filterMap_eq_countP]
  refine List.countP_congr fun line hline => ?_
  rw [hasText, dropFeed, if_pos (h line hline)]

/-- Further chunks complete further lines. -/
theorem completeLines_mono {chunks more : List Bytes} (h : chunks <+: more) :
    completeLines chunks <+: completeLines more := by
  obtain ⟨later, rfl⟩ := h
  rw [completeLines, completeLines, List.flatten_append, cutLines_append]
  exact List.prefix_append _ _

theorem completeLines_prefix_linesOf (chunks : List Bytes) :
    completeLines chunks <+: linesOf chunks.flatten :=
  List.prefix_append _ _

/-! ### Up to a line with text -/

/-- The lines in front of the line with text that follows `n` others. -/
def upTo : Nat → List Bytes → List Bytes
  | _, [] => []
  | n, line :: lines =>
    if hasText line then
      match n with
      | 0 => []
      | n + 1 => line :: upTo n lines
    else line :: upTo n lines

section

variable {n : Nat} {line : Bytes}

@[simp] theorem upTo_nil (n : Nat) : upTo n [] = [] := by
  cases n <;> rfl

theorem upTo_of_blank (h : hasText line = false) (lines : List Bytes) :
    upTo n (line :: lines) = line :: upTo n lines := by
  cases n <;> simp [upTo, h]

theorem upTo_zero (h : hasText line = true) (lines : List Bytes) : upTo 0 (line :: lines) = [] := by
  simp [upTo, h]

theorem upTo_succ (h : hasText line = true) (lines : List Bytes) :
    upTo (n + 1) (line :: lines) = line :: upTo n lines := by
  simp [upTo, h]

/-- Where there is no such line these are all lines. -/
theorem upTo_of_countP_le {lines : List Bytes} (h : lines.countP hasText ≤ n) :
    upTo n lines = lines := by
  induction lines generalizing n with
  | nil => exact upTo_nil n
  | cons line lines ih =>
    cases hline : hasText line with
    | false =>
      rw [List.countP_cons_of_neg (by simp [hline])] at h
      rw [upTo_of_blank hline, ih h]
    | true =>
      rw [List.countP_cons_of_pos hline] at h
      cases n with
      | zero => contradiction
      | succ n => rw [upTo_succ hline, ih (Nat.le_of_succ_le_succ h)]

/-- Lines behind such a line do not matter. -/
theorem upTo_append (n : Nat) (lines more : List Bytes) :
    upTo n (lines ++ more) =
      if n < lines.countP hasText then upTo n lines
      else lines ++ upTo (n - lines.countP hasText) more := by
  induction lines generalizing n with
  | nil => simp
  | cons line lines ih =>
    cases hline : hasText line with
    | false =>
      rw [List.cons_append, upTo_of_blank hline, upTo_of_blank hline,
        List.countP_cons_of_neg (by simp [hline]), ih]
      split <;> rfl
    | true =>
      rw [List.cons_append, List.countP_cons_of_pos hline]
      cases n with
      | zero => simp [upTo_zero hline]
      | succ n =>
        rw [upTo_succ hline, upTo_succ hline, Nat.add_sub_add_right, ih]
        simp only [Nat.add_lt_add_iff_right]
        split <;> rfl

theorem upTo_concat {lines : List Bytes} (h : n < (lines ++ [line]).countP hasText) :
    upTo n (lines ++ [line]) = upTo n lines := by
  rw [upTo_append]
  split
  next => rfl
  next hn =>
    have hcount := Nat.le_of_not_lt hn
    cases hline : hasText line with
    | false =>
      rw [List.countP_append, List.countP_singleton, hline] at h
      exact absurd h hn
    | true =>
      rw [List.countP_append, List.countP_singleton, hline] at h
      have hn : n - lines.countP hasText = 0 := Nat.sub_eq_zero_of_le (Nat.le_of_lt_succ h)
      rw [hn, upTo_zero hline, List.append_nil, upTo_of_countP_le hcount]

theorem prefix_upTo (n : Nat) (lines : List Bytes) : upTo n lines <+: lines := by
  induction lines generalizing n with
  | nil => exact (upTo_nil n).symm ▸ List.prefix_rfl
  | cons line lines ih =>
    cases hline : hasText line with
    | false =>
      rw [upTo_of_blank hline]
      exact (List.prefix_cons_inj line).2 (ih n)
    | true =>
      cases n with
      | zero =>
        rw [upTo_zero hline]
        exact List.nil_prefix
      | succ n =>
        rw [upTo_succ hline]
        exact (List.prefix_cons_inj line).2 (ih n)

theorem filter_upTo (n : Nat) (lines : List Bytes) :
    (upTo n lines).filter hasText = (lines.filter hasText).take n := by
  induction lines generalizing n with
  | nil => simp
  | cons line lines ih =>
    cases hline : hasText line with
    | false => simp [upTo_of_blank hline, hline, ih]
    | true =>
      cases n with
      | zero => simp [upTo_zero hline]
      | succ n => simp [upTo_succ hline, hline, ih]

end

/-- Some of the first lines, `n` of them with text, or all lines if there are no more. -/
structure IsUpTo (n : Nat) (lines front : List Bytes) : Prop where
  isFirst : front <+: lines
  filter_eq : front.filter hasText = (lines.filter hasText).take n

/-- How many blank lines stand behind the last one with text is all that is left open. -/
theorem IsUpTo.blanks {n : Nat} {lines front other : List Bytes} (h : IsUpTo n lines front)
    (h' : IsUpTo n lines other) :
    ∃ blanks : List Bytes, (∀ line ∈ blanks, hasText line = false) ∧
      (front = other ++ blanks ∨ other = front ++ blanks) := by
  have hblank {shorter blanks : List Bytes}
      (heq : (shorter ++ blanks).filter hasText = shorter.filter hasText) :
      ∀ line ∈ blanks, hasText line = false := by
    rw [List.filter_append, List.append_right_eq_self, List.filter_eq_nil_iff] at heq
    exact fun line hline => Bool.eq_false_iff.2 (heq line hline)
  have hsame : front.filter hasText = other.filter hasText := h.filter_eq.trans h'.filter_eq.symm
  rcases List.prefix_or_prefix_of_prefix h.isFirst h'.isFirst with ⟨blanks, rfl⟩ | ⟨blanks, rfl⟩
  · exact ⟨blanks, hblank hsame.symm, .inr rfl⟩
  · exact ⟨blanks, hblank hsame, .inl rfl⟩

/-! ### The lines of the first frames -/

/-- The lines that the first `n` frames of a stream stand for: those that are complete at the first
moment with so many lines with text, in front of a further one. If that moment does not come
before the stream ends, these are all lines. -/
def linesFor (n : Nat) (chunks : List Bytes) : List Bytes :=
  match chunks.inits.find? fun fed => n ≤ (completeLines fed).countP hasText with
  | some fed => upTo n (completeLines fed)
  | none => linesOf chunks.flatten

theorem isUpTo_linesFor (n : Nat) (chunks : List Bytes) :
    IsUpTo n (linesOf chunks.flatten) (linesFor n chunks) := by
  unfold linesFor
  split
  next fed hfed =>
    have hn : n ≤ (completeLines fed).countP hasText := by simpa using List.find?_some hfed
    have hfirst : completeLines fed <+: linesOf chunks.flatten :=
      (completeLines_mono ((List.mem_inits _ _).1 (List.mem_of_find?_eq_some hfed))).trans
        (completeLines_prefix_linesOf chunks)
    refine ⟨(prefix_upTo n _).trans hfirst, ?_⟩
    obtain ⟨later, hlater⟩ := hfirst.filter hasText
    rw [List.countP_eq_length_filter] at hn
    rw [filter_upTo, ← hlater, List.take_append_of_le_length hn]
  next hnone =>
    refine ⟨List.prefix_rfl, (List.take_of_length_le ?_).symm⟩
    have hn := List.find?_eq_none.1 hnone chunks ((List.mem_inits _ _).2 List.prefix_rfl)
    have hrest : (linesOf chunks.flatten).countP hasText ≤
        (completeLines chunks).countP hasText + 1 := by
      rw [linesOf, List.countP_append]
      refine Nat.add_le_add_left (Nat.le_trans List.countP_le_length ?_) _
      split <;> simp
    rw [← List.countP_eq_length_filter]
    simp only [decide_eq_true_eq] at hn
    omega

example : linesFor 1 [Utf8.ofText "a\n\nb"] = [Utf8.ofText "a\n", [lineFeed]] ∧
    linesFor 1 [Utf8.ofText "a\n", Utf8.ofText "\nb"] = [Utf8.ofText "a\n"] := by
  decide +kernel

namespace Gathering

/-- The frames of complete lines are as many as there are lines with text. -/
theorem length_frames_foldl_add (g : Gathering) (lines : List Bytes) :
    (lines.foldl add g).frames.length = g.frames.length + (textsOf lines).length := by
  simpa using congrArg List.length (texts_foldl_add g lines)

theorem settled_foldl_add {g : Gathering} (h : g.Settled) (lines : List Bytes) :
    (lines.foldl add g).Settled := by
  induction lines generalizing g with
  | nil => exact h
  | cons line lines ih => exact ih (settled_add h line)

/-- A line more leaves all frames but the last as they are. -/
theorem take_frames_add (g : Gathering) (line : Bytes) {m : Nat}
    (h : m < (g.add line).frames.length) :
    (g.add line).frames.reverse.take m = g.frames.reverse.take m := by
  unfold add at h ⊢
  dsimp only at h ⊢
  split at h
  next =>
    rw [if_pos ‹_›]
    split at h
    next last earlier hf =>
      have hm : m ≤ earlier.reverse.length := by simpa [Nat.lt_succ_iff] using h
      simp only [hf, List.reverse_cons, List.take_append_of_le_length hm]
    next hf => simp [hf]
  next =>
    rw [if_neg ‹_›]
    have hm : m ≤ g.frames.reverse.length := by simpa [Nat.lt_succ_iff] using h
    rw [List.reverse_cons, List.take_append_of_le_length hm]

/-- The first frames of complete lines stand for the orphans, and for the lines up to a further
one with text. -/
theorem bytes_take_frames (orphan : Bytes) {lines : List Bytes} {m : Nat}
    (hlines : ∀ line ∈ lines, line.getLast? = some lineFeed) (hpos : 0 < m)
    (hm : m ≤ lines.countP hasText) :
    Batch.bytes ((lines.foldl add ⟨orphan, []⟩).frames.reverse.take m) =
      orphan ++ (upTo m lines).flatten := by
  induction lines using List.reverseRecOn with
  | nil => exact absurd hm (Nat.not_le.2 hpos)
  | append_singleton lines line ih =>
    have hcount (lines : List Bytes) (h : ∀ line ∈ lines, line.getLast? = some lineFeed) :
        (lines.foldl add ⟨orphan, []⟩).frames.length = lines.countP hasText := by
      rw [length_frames_foldl_add, length_textsOf h, List.length_nil, Nat.zero_add]
    rcases Nat.lt_or_eq_of_le hm with hlt | rfl
    · -- the last frame is not among them, and nothing but it depends on the last line
      have hearlier : m ≤ lines.countP hasText := by
        rw [List.countP_append, List.countP_singleton] at hlt
        split at hlt <;> omega
      rw [upTo_concat hlt, ← ih (fun l hl => hlines l (by simp [hl])) hearlier, List.foldl_concat]
      rw [← hcount _ hlines, List.foldl_concat] at hlt
      rw [take_frames_add _ _ hlt]
    · have hlength := hcount _ hlines
      have hall := bytes_foldl_add (g := ⟨orphan, []⟩) (Or.inl rfl) (lines ++ [line])
      -- a blank line behind the last frame is in it, so that no orphans are left
      have horphan : ((lines ++ [line]).foldl add ⟨orphan, []⟩).orphan = [] := by
        refine (settled_foldl_add (g := ⟨orphan, []⟩) (Or.inl rfl) _).resolve_left fun hnil => ?_
        rw [hnil] at hlength
        exact absurd hlength (Nat.ne_of_lt hpos)
      rw [upTo_of_countP_le (Nat.le_refl _), ← hlength,
        List.take_of_length_le (by rw [List.length_reverse])]
      rwa [bytes, horphan, List.append_nil, bytes, List.reverse_nil, Batch.bytes_nil,
        List.nil_append] at hall

end Gathering

namespace Assembler

theorem feedAll_append (a : Assembler) (chunks more : List Bytes) :
    a.feedAll (chunks ++ more) =
      (((a.feedAll chunks).1.feedAll more).1,
        (a.feedAll chunks).2 ++ ((a.feedAll chunks).1.feedAll more).2) := by
  induction chunks generalizing a with
  | nil => rfl
  | cons chunk chunks ih => simp [feedAll_cons, ih]

/-- There are as many frames as complete lines with text. -/
theorem length_feedAll (chunks : List Bytes) :
    (empty.feedAll chunks).2.length = (completeLines chunks).countP hasText := by
  have htexts := (feedAll_spec isScanned_empty chunks).1
  rw [completeLines, ← length_textsOf fun line hline => getLast?_of_mem_cutLines hline]
  simpa [empty] using congrArg List.length htexts

/-- The frames so far and the orphans are the complete lines. -/
theorem bytes_feedAll_orphan (chunks : List Bytes) :
    Batch.bytes (empty.feedAll chunks).2 ++ (empty.feedAll chunks).1.orphan =
      (completeLines chunks).flatten := by
  have hbytes := bytes_feedAll empty chunks
  have hpending := (feedAll_spec isScanned_empty chunks).2.1
  have hcut := cutLines_flatten chunks.flatten
  rw [held, hpending, held_empty, List.nil_append, ← List.append_assoc] at hbytes
  exact List.append_cancel_right (hbytes.trans hcut.symm)

/-- A chunk more completes the lines that it makes of the unterminated one. -/
theorem completeLines_concat (chunks : List Bytes) (chunk : Bytes) :
    completeLines (chunks ++ [chunk]) =
      completeLines chunks ++ ((empty.feedAll chunks).1.cut chunk).1 := by
  obtain ⟨-, hpending, hscanned⟩ := feedAll_spec isScanned_empty chunks
  rw [cut_eq hscanned, hpending, completeLines, completeLines, List.flatten_append,
    List.flatten_singleton, cutLines_append]
  rfl

/-- The lines that a further chunk completes end with their line feeds. -/
theorem getLast?_of_mem_cut (chunks : List Bytes) (chunk : Bytes) :
    ∀ line ∈ ((empty.feedAll chunks).1.cut chunk).1, line.getLast? = some lineFeed := by
  rw [cut_eq (feedAll_spec isScanned_empty chunks).2.2]
  exact fun line hline => getLast?_of_mem_cutLines hline

section

variable {n : Nat} {chunks fed : List Bytes}
  (h : (chunks.inits.find? fun fed => n ≤ (completeLines fed).countP hasText) = some fed)

include h

theorem le_length_feedAll : n ≤ (empty.feedAll chunks).2.length := by
  have hn : n ≤ (completeLines fed).countP hasText := by simpa using List.find?_some h
  have hfed := (List.mem_inits _ _).1 (List.mem_of_find?_eq_some h)
  rw [length_feedAll]
  exact hn.trans ((completeLines_mono hfed).countP_le)

/-- The first frames stand for the lines that are complete when there are so many frames for the
first time, up to a further line with text. -/
theorem bytes_take_feedAll :
    Batch.bytes ((empty.feedAll chunks).2.take n) = (upTo n (completeLines fed)).flatten := by
  -- from the end, since a last chunk adds one moment behind all others and leaves those as they are
  induction chunks using List.reverseRecOn with
  | nil =>
    have hfed : fed = [] := List.mem_singleton.1 (List.mem_of_find?_eq_some h)
    simp [hfed, completeLines]
  | append_singleton chunks chunk ih =>
    have hinits : (chunks ++ [chunk]).inits = chunks.inits ++ [chunks ++ [chunk]] := by
      simp [List.inits_append]
    rw [hinits, List.find?_append] at h
    rw [feedAll_append]
    cases hearlier : chunks.inits.find? fun fed => n ≤ (completeLines fed).countP hasText with
    | some earlier =>
      rw [hearlier, Option.some_or, Option.some.injEq] at h
      have hsame := hearlier.trans (congrArg some h)
      rw [List.take_append_of_le_length (le_length_feedAll hsame), ih hsame]
    | none =>
      -- the new chunk completes the lines that were missing
      have hmissing := List.find?_eq_none.1 hearlier chunks ((List.mem_inits _ _).2 List.prefix_rfl)
      rw [hearlier, Option.none_or] at h
      have hfed := List.mem_singleton.1 (List.mem_of_find?_eq_some h)
      have hn := List.find?_some h
      simp only [hfed, decide_eq_true_eq, completeLines_concat, List.countP_append] at hmissing hn
      have hpos : 0 < n - (completeLines chunks).countP hasText := by omega
      have hnew := Gathering.bytes_take_frames (empty.feedAll chunks).1.orphan
        (getLast?_of_mem_cut chunks chunk) hpos (by omega)
      have hfeed : ((empty.feedAll chunks).1.feedAll [chunk]).2 =
          ((empty.feedAll chunks).1.feed chunk).2 := by
        simp [feedAll_cons]
      rw [hfeed, hfed, completeLines_concat, upTo_append, if_neg (by omega), List.flatten_append,
        ← bytes_feedAll_orphan, List.append_assoc, ← hnew, ← length_feedAll, List.take_append,
        List.take_of_length_le (by rw [length_feedAll]; omega), Batch.bytes_append]
      rfl

end

/-- Behind a last frame there are no trailing bytes. -/
theorem trailing_of_frame {a : Assembler} (h : 0 < a.finish.2.frame.toList.length) :
    a.finish.2.trailing = [] := by
  unfold finish at h ⊢
  dsimp only at h ⊢
  split at h
  next => contradiction
  next => rw [if_neg ‹_›]

/-- The first frames of a stream that ends have the bytes of the lines that they stand for. -/
theorem bytes_take_frames (chunks : List Bytes) {n : Nat}
    (hn : n ≤ ((empty.feedAll chunks).2 ++
      (empty.feedAll chunks).1.finish.2.frame.toList).length) :
    Batch.bytes (((empty.feedAll chunks).2 ++
      (empty.feedAll chunks).1.finish.2.frame.toList).take n) = (linesFor n chunks).flatten := by
  unfold linesFor
  split
  next fed hfed =>
    rw [List.take_append_of_le_length (le_length_feedAll hfed), bytes_take_feedAll hfed]
  next hnone =>
    -- the last frame is among them
    have hmissing := List.find?_eq_none.1 hnone chunks ((List.mem_inits _ _).2 List.prefix_rfl)
    simp only [decide_eq_true_eq, ← length_feedAll] at hmissing
    rw [List.length_append] at hn
    have hframe : 0 < (empty.feedAll chunks).1.finish.2.frame.toList.length := by omega
    have hsingle : (empty.feedAll chunks).1.finish.2.frame.toList.length ≤ 1 :=
      Option.length_toList_le
    have hbytes := bytes_feedAll empty chunks
    rw [← bytes_finish, trailing_of_frame hframe, List.append_nil, held_empty, List.nil_append]
      at hbytes
    rw [List.take_of_length_le (by rw [List.length_append]; omega), Batch.bytes_append, hbytes,
      flatten_linesOf]

end Assembler

end ModerationGateway.Stream
