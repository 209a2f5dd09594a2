import ModerationGateway.Proofs.Stream.LineEnds
import ModerationGateway.Proofs.Stream.Uses

/-!
# What the bytes of a frame hold

The bytes of a frame may be several lines: blank ones that waited for it, its own, and blank ones
that came with it. Its own is the only one with text, so that a frame can be withheld or forwarded
without any other. An assembler that starts with these bytes makes the same frame of them again.

* `lineTexts_append`, `lineTexts_of_mem`: the texts of lines behind others, and of one line;
* `IsBlankLines`, `Frame.IsComplete`, `Frame.IsSole`: bytes without text, the frame of a complete
  line, and any frame;
* `Gathering.IsClean`, `Assembler.IsClean`: what each line and each use keep;
* `Assembler.isSole_useAll`: the bytes of the frames of any uses hold their own texts only;
* `Assembler.alone`, `Frame.IsSole.alone_eq`: what an assembler makes of bytes by themselves;
* `Assembler.lineTexts_of_sublist`: some frames of a stream without the others;
* `Assembler.frames_standAlone`: both of the frames that are handed out.
-/

namespace ModerationGateway.Stream

/-! ### Lines behind others -/

/-- Behind bytes that leave no line open, lines have the texts that they have by themselves. -/
theorem lineTexts_append {xs : Bytes} (h : EndsLine xs) (ys : Bytes) :
    lineTexts (xs ++ ys) = lineTexts xs ++ lineTexts ys := by
  rw [lineTexts_eq_append, lineTexts_eq_append, lineTexts_eq_append, cutLines_append,
    (endsLine_iff xs).1 h]
  simp

/-- The text of a complete line, unless it is blank. -/
theorem lineTexts_of_mem {bs line : Bytes} (h : line ∈ (cutLines bs).1) :
    lineTexts line = (lineText? line.dropLast).toList := by
  rw [lineTexts_eq_append, cutLines_of_mem h, lineText?_nil]
  cases htext : lineText? line.dropLast <;> simp [textsOf, htext]

/-- Complete lines, none of them with text. -/
structure IsBlankLines (bs : Bytes) : Prop where
  ends : EndsLine bs
  texts : lineTexts bs = []

theorem isBlankLines_nil : IsBlankLines [] := ⟨endsLine_nil, rfl⟩

theorem IsBlankLines.append {xs ys : Bytes} (hxs : IsBlankLines xs) (hys : IsBlankLines ys) :
    IsBlankLines (xs ++ ys) :=
  ⟨hxs.ends.append hys.ends, by rw [lineTexts_append hxs.ends, hxs.texts, hys.texts]; rfl⟩

/-- The bytes of the frame are complete lines that hold its text and no other. -/
structure Frame.IsComplete (f : Frame) : Prop where
  ends : EndsLine f.raw
  texts : lineTexts f.raw = [f.text]

/-- The bytes of the frame hold its text and no other. If they leave a line open, it is the one with
the text. -/
structure Frame.IsSole (f : Frame) : Prop where
  ends : EndsLine f.raw ∨ (lineText? (cutLines f.raw).2).isSome
  texts : lineTexts f.raw = [f.text]

theorem Frame.IsComplete.isSole {f : Frame} (h : f.IsComplete) : f.IsSole := ⟨.inl h.ends, h.texts⟩

/-- Blank lines change nothing about the texts of a frame that they are added to. -/
theorem Frame.IsComplete.append {f : Frame} (h : f.IsComplete) {bs : Bytes} (hbs : IsBlankLines bs) :
    Frame.IsComplete { f with raw := f.raw ++ bs } :=
  ⟨h.ends.append hbs.ends, by rw [lineTexts_append h.ends, hbs.texts, List.append_nil, h.texts]⟩

/-! ### Gathering lines -/

namespace Gathering

/-- Blank lines wait, and the frames are those of complete lines. -/
structure IsClean (g : Gathering) : Prop where
  orphan : IsBlankLines g.orphan
  frames : ∀ f ∈ g.frames, f.IsComplete

theorem IsClean.add {g : Gathering} (h : g.IsClean) {bs line : Bytes}
    (hline : line ∈ (cutLines bs).1) : (g.add line).IsClean := by
  obtain ⟨horphan, hframes⟩ := h
  have hends : EndsLine line := .inr (getLast?_of_mem_cutLines hline)
  have htexts := lineTexts_of_mem hline
  unfold Gathering.add
  dsimp only
  split
  next hblank =>
    rw [lineText?, if_pos hblank] at htexts
    split
    next last earlier hf =>
      rw [hf, List.forall_mem_cons] at hframes
      exact ⟨horphan, List.forall_mem_cons.2 ⟨hframes.1.append ⟨hends, htexts⟩, hframes.2⟩⟩
    next => exact ⟨horphan.append ⟨hends, htexts⟩, hframes⟩
  next hblank =>
    rw [lineText?, if_neg hblank, Option.toList_some] at htexts
    refine ⟨isBlankLines_nil, List.forall_mem_cons.2 ⟨⟨horphan.ends.append hends, ?_⟩, hframes⟩⟩
    rw [lineTexts_append horphan.ends, horphan.texts, htexts, List.nil_append]

theorem IsClean.foldl_add {g : Gathering} (h : g.IsClean) {bs : Bytes} {lines : List Bytes}
    (hlines : ∀ line ∈ lines, line ∈ (cutLines bs).1) : (lines.foldl Gathering.add g).IsClean := by
  induction lines generalizing g with
  | nil => exact h
  | cons line lines ih =>
    rw [List.forall_mem_cons] at hlines
    exact ih (h.add hlines.1) hlines.2

end Gathering

/-! ### An assembler in use -/

namespace Assembler

/-- Between two uses the unterminated line holds no line feed, and blank lines wait. -/
structure IsClean (a : Assembler) : Prop where
  scanned : a.IsScanned
  orphan : IsBlankLines a.orphan

theorem isClean_empty : empty.IsClean := ⟨isScanned_empty, isBlankLines_nil⟩

variable {a : Assembler}

theorem IsClean.feed (h : a.IsClean) (chunk : Bytes) :
    (∀ f ∈ (a.feed chunk).2, f.IsComplete) ∧ (a.feed chunk).1.IsClean := by
  have hstart : Gathering.IsClean ⟨a.orphan, []⟩ := ⟨h.orphan, List.forall_mem_nil _⟩
  have hlines : ∀ line ∈ (a.cut chunk).1, line ∈ (cutLines (a.pending ++ chunk)).1 := by
    rw [cut_eq h.scanned]
    exact fun _ hline => hline
  have hgathered := hstart.foldl_add hlines
  refine ⟨fun f hf => hgathered.frames f ?_, isScanned_feed h.scanned chunk, hgathered.orphan⟩
  simpa [Assembler.feed] using hf

theorem IsClean.feedAll (h : a.IsClean) (chunks : List Bytes) :
    (∀ f ∈ (a.feedAll chunks).2, f.IsComplete) ∧ (a.feedAll chunks).1.IsClean := by
  induction chunks generalizing a with
  | nil => exact ⟨List.forall_mem_nil _, h⟩
  | cons chunk chunks ih =>
    obtain ⟨hframes, hnext⟩ := h.feed chunk
    obtain ⟨hlater, hlast⟩ := ih hnext
    exact ⟨List.forall_mem_append.2 ⟨hframes, hlater⟩, hlast⟩

/-- The frame of the unterminated line leaves that line open. -/
theorem IsClean.finish (h : a.IsClean) : ∀ f ∈ a.finish.2.frame, f.IsSole := by
  obtain ⟨⟨-, hpending⟩, horphan⟩ := h
  have hopen : (cutLines a.held).2 = a.pending := by
    rw [held, cutLines_append_snd _ hpending, (endsLine_iff _).1 horphan.ends, List.nil_append]
  have htexts : lineTexts a.held = (lineText? a.pending).toList := by
    rw [held, lineTexts_append horphan.ends, horphan.texts, lineTexts_eq_append,
      cutLines_of_not_mem hpending]
    rfl
  unfold Assembler.finish
  dsimp only
  split
  next => rintro f ⟨⟩
  next hblank =>
    rintro f ⟨⟩
    have htext : lineText? a.pending = some (String.ofList (decodeLine a.pending)) := if_neg hblank
    exact ⟨.inr (by rw [hopen, htext]; rfl), by rw [htexts, htext]; rfl⟩

theorem IsClean.use (h : a.IsClean) (u : Use) :
    (∀ f ∈ (a.use u).2.frames, f.IsSole) ∧ (a.use u).1.IsClean := by
  cases u with
  | feed chunk =>
    obtain ⟨hframes, hnext⟩ := h.feed chunk
    exact ⟨fun f hf => (hframes f hf).isSole, hnext⟩
  | finish =>
    refine ⟨fun f hf => h.finish f (Option.mem_toList.1 hf), ?_⟩
    rw [Assembler.use, finish_fst]
    exact isClean_empty

/-- The bytes of the frames that any uses hand out hold their own texts only. -/
theorem isSole_useAll (h : a.IsClean) (uses : List Use) :
    ∀ o ∈ (a.useAll uses).2, ∀ f ∈ o.frames, f.IsSole := by
  induction uses generalizing a with
  | nil => exact List.forall_mem_nil _
  | cons u uses ih =>
    obtain ⟨hframes, hnext⟩ := h.use u
    rw [useAll_cons]
    exact List.forall_mem_cons.2 ⟨hframes, ih hnext⟩

/-! ### A frame by itself -/

/-- What an assembler makes of bytes that come in one chunk: all frames, and the bytes that belong to
none. -/
def alone (bs : Bytes) : List Frame × Bytes :=
  ((empty.feed bs).2 ++ (empty.feed bs).1.finish.2.frame.toList,
    (empty.feed bs).1.finish.2.trailing)

theorem texts_alone (bs : Bytes) : (alone bs).1.map (·.text) = lineTexts bs := by
  have htexts := frameTexts_eq [bs]
  rw [frameTexts, feedAll_cons, feedAll_nil, List.append_nil, List.flatten_singleton] at htexts
  exact htexts

theorem bytes_alone (bs : Bytes) : Batch.bytes (alone bs).1 ++ (alone bs).2 = bs := by
  have hfeed := empty.bytes_feed bs
  rw [← bytes_finish, held_empty, List.nil_append, ← List.append_assoc, ← Batch.bytes_append]
    at hfeed
  exact hfeed

/-- Blank lines wait only while there is no frame that could take them. -/
theorem orphan_feed (a : Assembler) {chunk : Bytes} (h : (a.feed chunk).2 ≠ []) :
    (a.feed chunk).1.orphan = [] := by
  have hsettled := Gathering.settled_foldl_add (g := ⟨a.orphan, []⟩) (Or.inl rfl) (a.cut chunk).1
  exact hsettled.resolve_left fun hnil => h (by simp [Assembler.feed, hnil])

/-- Nothing is left over if there is a frame and no blank line is open. -/
theorem trailing_alone {bs : Bytes} (hframes : (alone bs).1 ≠ [])
    (hends : EndsLine bs ∨ (lineText? (cutLines bs).2).isSome) : (alone bs).2 = [] := by
  unfold alone at hframes ⊢
  cases hframe : (empty.feed bs).1.finish.2.frame with
  | some f => exact trailing_of_frame (a := (empty.feed bs).1) (by rw [hframe]; exact Nat.one_pos)
  | none =>
    -- no line is open, and no blank ones wait behind the frame of a complete line
    have hblank := isSome_frame_finish [bs]
    have hpending := (feedAll_spec isScanned_empty [bs]).2.1
    simp only [feedAll_cons, feedAll_nil, List.flatten_singleton, hframe] at hblank hpending
    have hopen := (endsLine_iff bs).1 (hends.resolve_right (by simp [← hblank]))
    rw [hframe, Option.toList_none, List.append_nil] at hframes
    have hheld := (empty.feed bs).1.bytes_finish
    rw [hframe, held, orphan_feed _ hframes, hpending] at hheld
    exact hheld.trans hopen

end Assembler

open Assembler

variable {f : Frame} {frames kept : List Frame} {chunks : List Bytes}

/-- A frame whose bytes hold its text only is all that an assembler makes of them. -/
theorem Frame.IsSole.alone_eq (h : f.IsSole) : alone f.raw = ([f], []) := by
  have htexts := texts_alone f.raw
  rw [h.texts, List.map_eq_singleton_iff] at htexts
  obtain ⟨g, hg, htext⟩ := htexts
  have htrailing := trailing_alone (by simp [hg]) h.ends
  have hraw := bytes_alone f.raw
  rw [hg, htrailing, List.append_nil, Batch.bytes_cons, Batch.bytes_nil, List.append_nil] at hraw
  have hsame : g = f := by
    cases g
    cases f
    exact congrArg₂ Frame.mk htext hraw
  exact Prod.ext (hsame ▸ hg) htrailing

/-! ### Frames without others -/

/-- The frames of complete lines hold their texts, one after the other. -/
theorem lineTexts_bytes (h : ∀ f ∈ frames, f.IsComplete) :
    EndsLine (Batch.bytes frames) ∧ lineTexts (Batch.bytes frames) = frames.map (·.text) := by
  induction frames with
  | nil => exact ⟨endsLine_nil, rfl⟩
  | cons f frames ih =>
    rw [List.forall_mem_cons] at h
    obtain ⟨hends, htexts⟩ := ih h.2
    rw [Batch.bytes_cons, lineTexts_append h.1.ends, h.1.texts, htexts]
    exact ⟨h.1.ends.append hends, rfl⟩

namespace Assembler

/-- Any frames of a stream hold their own texts, whichever others are left out. Only the last frame
can leave a line open, and none comes behind it. -/
theorem lineTexts_of_sublist (h : kept.Sublist ((empty.feedAll chunks).2 ++
    (empty.feedAll chunks).1.finish.2.frame.toList)) :
    lineTexts (Batch.bytes kept) = kept.map (·.text) := by
  obtain ⟨hcomplete, hclean⟩ := isClean_empty.feedAll chunks
  obtain ⟨fed, last, rfl, hfed, hlast⟩ := List.sublist_append_iff.1 h
  obtain ⟨hends, htexts⟩ := lineTexts_bytes fun f hf => hcomplete f (hfed.subset hf)
  have hsole : lineTexts (Batch.bytes last) = last.map (·.text) := by
    cases hframe : (empty.feedAll chunks).1.finish.2.frame with
    | none =>
      rw [hframe, Option.toList_none, List.sublist_nil] at hlast
      rw [hlast]
      rfl
    | some f =>
      rw [hframe, Option.toList_some, List.sublist_singleton] at hlast
      rcases hlast with rfl | rfl
      · rfl
      · rw [Batch.bytes_cons, Batch.bytes_nil, List.append_nil, (hclean.finish f hframe).texts]
        rfl
  rw [Batch.bytes_append, lineTexts_append hends, htexts, hsole, List.map_append]

/-- Whatever is done with an assembler, each frame that it hands out is all that another one makes of
the bytes of the frame. And if only some frames of a stream are forwarded, the lines with text that
are forwarded are those of these frames. -/
theorem frames_standAlone (uses : List Use) (chunks : List Bytes) :
    (∀ o ∈ (empty.useAll uses).2, ∀ f ∈ o.frames, alone f.raw = ([f], [])) ∧
      ∀ kept : List Frame,
        kept.Sublist ((empty.feedAll chunks).2 ++
          (empty.feedAll chunks).1.finish.2.frame.toList) →
        lineTexts (Batch.bytes kept) = kept.map (·.text) :=
  ⟨fun o ho f hf => (isSole_useAll isClean_empty uses o ho f hf).alone_eq,
    fun _ h => lineTexts_of_sublist h⟩

/-- A frame with a blank line behind its own, and one without line feed. -/
theorem frames_standAlone_threeLinesCut :
    let blankBehind : Frame := ⟨"a", threeLines.take 6⟩
    let unterminated : Frame := ⟨"b", threeLines.drop 10⟩
    (∀ f ∈ [blankBehind, unterminated],
        ∃ o ∈ (empty.useAll (threeLinesCut.map .feed ++ [.finish])).2, f ∈ o.frames) ∧
      (∀ f ∈ [blankBehind, unterminated], alone f.raw = ([f], [])) ∧
      [blankBehind, unterminated].Sublist ((empty.feedAll threeLinesCut).2 ++
        (empty.feedAll threeLinesCut).1.finish.2.frame.toList) ∧
      lineTexts (threeLines.take 6 ++ threeLines.drop 10) = ["a", "b"] := by
  intro blankBehind unterminated
  have hall := frames_standAlone (threeLinesCut.map .feed ++ [.finish]) threeLinesCut
  have hframes : ∀ f ∈ [blankBehind, unterminated],
      ∃ o ∈ (empty.useAll (threeLinesCut.map .feed ++ [.finish])).2, f ∈ o.frames := by
    decide +kernel
  have hkept : [blankBehind, unterminated].Sublist ((empty.feedAll threeLinesCut).2 ++
      (empty.feedAll threeLinesCut).1.finish.2.frame.toList) := by
    decide +kernel
  refine ⟨hframes, fun f hf => ?_, hkept, hall.2 _ hkept⟩
  obtain ⟨o, ho, hmem⟩ := hframes f hf
  exact hall.1 o ho f hmem

end Assembler

end ModerationGateway.Stream
