import ModerationGateway.Proofs.Stream.Grouping
import ModerationGateway.Stream.Room

/-!
# Room for the frames that wait

Room for a whole batch is reserved before the first frame comes. It is enough until the end: the
frames that wait are always fewer than a batch, so a queue never outgrows its room, and the room of
the next batch is the same again. A batcher that has handed out its last, partial batch has no room
left; if it is used again its queue asks for room as it grows, for twice its frames at most.

* `Reserved.pushAll?`: frames pushed one after the other, each if there is room;
* `Reserved.IsAmple`: a queue shorter than a batch in the room of a batch;
* `IsAmple.push?`, `IsAmple.pushAll?`: pushing keeps it so, and groups frames as if room were free;
* `pushAll?_eq_some`, `exists_pushAll?`: a queue in any room, as far as it gets more, and when it
  does;
* `GoesOnAs`, `isGrouping_pushed`: the batches of a batcher, and that it is as good as new at the
  end.
-/

namespace ModerationGateway.Stream

theorem reserve?_eq_some {frames : Nat} (h : frames * frameRoom ≤ roomLimit) :
    reserve? frames = some frames :=
  if_pos h

namespace Reserved

/-- Push frames one after the other: the batches that they fill. -/
def pushAll? (b : Reserved) : List Frame → Option (Reserved × List Batch)
  | [] => some (b, [])
  | frame :: frames => do
    let (b, filled) ← b.push? frame
    let (b, batches) ← b.pushAll? frames
    some (b, filled.toList ++ batches)

/-- The queue is shorter than a batch and has the room of one. -/
structure IsAmple (b : Reserved) : Prop where
  short : b.batcher.queue.length < b.batcher.size
  room : b.room = b.batcher.size
  fits : b.batcher.size * frameRoom ≤ roomLimit

variable {b : Reserved}

theorem IsAmple.roomForNext? (h : b.IsAmple) : b.roomForNext? = some b.room :=
  if_pos (h.room ▸ h.short)

/-- A push to a short queue leaves a short queue of the same size. -/
theorem IsAmple.of_push (h : b.IsAmple) (frame : Frame) :
    IsAmple ⟨(b.batcher.push frame).1, b.room⟩ := by
  have hsize : 0 < b.batcher.size := Nat.zero_lt_of_lt h.short
  unfold Batcher.push
  dsimp only
  split
  next => exact ⟨hsize, h.room, h.fits⟩
  next hshort => exact ⟨Nat.lt_of_not_le hshort, h.room, h.fits⟩

/-- A push never fails: the frame has its place, and the batch it fills is followed by an equal
piece of room. -/
theorem IsAmple.push? (h : b.IsAmple) (frame : Frame) :
    b.push? frame = some (⟨(b.batcher.push frame).1, b.room⟩, (b.batcher.push frame).2) := by
  have hnext := h.of_push frame
  rw [Reserved.push?, h.roomForNext?]
  generalize b.batcher.push frame = pushed at hnext ⊢
  obtain ⟨batcher, _ | batch⟩ := pushed
  · rfl
  · have hroom : b.room = batcher.size := hnext.room
    have hreserve : reserve? batcher.size = some batcher.size := reserve?_eq_some hnext.fits
    simp [hreserve, hroom]

theorem IsAmple.pushAll? (h : b.IsAmple) (frames : List Frame) :
    b.pushAll? frames =
      some (⟨(b.batcher.pushAll frames).1, b.room⟩, (b.batcher.pushAll frames).2) := by
  induction frames generalizing b with
  | nil => rfl
  | cons frame frames ih =>
    simp only [Reserved.pushAll?, h.push? frame, ih (h.of_push frame), Option.bind_eq_bind,
      Option.bind_some, Batcher.pushAll_cons]

theorem IsAmple.of_pushAll (h : b.IsAmple) (frames : List Frame) :
    IsAmple ⟨(b.batcher.pushAll frames).1, b.room⟩ := by
  induction frames generalizing b with
  | nil => exact h
  | cons frame frames ih => exact ih (h.of_push frame)

theorem isAmple_ofSize {size : Nat} (h : Batcher.Fits size) :
    IsAmple ⟨.ofSize size, Batcher.effectiveSize size⟩ :=
  ⟨Batcher.isShort_ofSize size, rfl, h⟩

/-! ### A queue in any room -/

/-- Room decides on nothing but whether a frame finds its place. -/
theorem push?_eq_some {frame : Frame} {c : Reserved} {filled : Option Batch}
    (h : b.push? frame = some (c, filled)) : b.batcher.push frame = (c.batcher, filled) := by
  rw [push?, Option.bind_eq_bind, Option.bind_eq_some_iff] at h
  obtain ⟨room, -, h⟩ := h
  generalize b.batcher.push frame = pushed at h
  obtain ⟨batcher, _ | batch⟩ := pushed
  · cases h
    rfl
  · obtain ⟨room, -, h⟩ := Option.bind_eq_some_iff.1 h
    cases h
    rfl

theorem pushAll?_eq_some {frames : List Frame} {c : Reserved} {filled : List Batch}
    (h : b.pushAll? frames = some (c, filled)) :
    b.batcher.pushAll frames = (c.batcher, filled) := by
  induction frames generalizing b filled with
  | nil =>
    cases h
    rfl
  | cons frame frames ih =>
    obtain ⟨⟨d, first⟩, hpush, h⟩ := Option.bind_eq_some_iff.1 h
    obtain ⟨⟨d', rest⟩, hrest, h⟩ := Option.bind_eq_some_iff.1 h
    cases h
    rw [Batcher.pushAll_cons, push?_eq_some hpush, ih hrest]

/-- A queue that is full asks for no more than twice the room of what waits with the next frame. -/
theorem exists_roomForNext? (h : 2 * (b.batcher.queue.length + 1) * frameRoom ≤ roomLimit) :
    ∃ room, b.roomForNext? = some room := by
  rw [roomForNext?]
  split
  next => exact ⟨_, rfl⟩
  next hfull =>
    refine ⟨_, reserve?_eq_some ?_⟩
    rw [leastRoom, frameRoom, roomLimit] at *
    omega

theorem exists_push? (hfits : b.batcher.size * frameRoom ≤ roomLimit)
    (h : 2 * (b.batcher.queue.length + 1) * frameRoom ≤ roomLimit) (frame : Frame) :
    ∃ c, b.push? frame = some c := by
  obtain ⟨room, hroom⟩ := exists_roomForNext? h
  have hsize := b.batcher.size_push frame
  rw [push?, hroom, Option.bind_eq_bind, Option.bind_some]
  generalize b.batcher.push frame = pushed at hsize ⊢
  obtain ⟨batcher, _ | batch⟩ := pushed
  · exact ⟨_, rfl⟩
  · have hreserve : reserve? batcher.size = some batcher.size :=
      reserve?_eq_some (hsize.symm ▸ hfits)
    exact ⟨_, Option.bind_eq_some_iff.2 ⟨_, hreserve, rfl⟩⟩

/-- A queue finds room for all frames if there is room for twice those that can wait at a time. -/
theorem exists_pushAll? {frames : List Frame} (hshort : b.batcher.IsShort)
    (hfits : b.batcher.size * frameRoom ≤ roomLimit)
    (h : ∀ n ≤ b.batcher.size, n ≤ b.batcher.queue.length + frames.length →
      2 * n * frameRoom ≤ roomLimit) : ∃ c, b.pushAll? frames = some c := by
  induction frames generalizing b with
  | nil => exact ⟨_, rfl⟩
  | cons frame frames ih =>
    rw [List.length_cons] at h
    obtain ⟨⟨c, filled⟩, hpush⟩ := exists_push? hfits (h _ hshort (by omega)) frame
    have hnext := (hshort.push frame).1
    have hsize := b.batcher.size_push frame
    have hqueue := congrArg List.length (b.batcher.queue_push frame)
    rw [push?_eq_some hpush] at hnext hsize hqueue
    simp only [List.length_append, List.length_singleton] at hqueue
    obtain ⟨d, hrest⟩ := ih hnext (hsize ▸ hfits) fun n hn hn' => h n (hsize ▸ hn) (by omega)
    exact ⟨(d.1, filled.toList ++ d.2), by simp [pushAll?, hpush, hrest]⟩

/-! ### Groupings -/

/-- A batcher goes on as another one: what it hands out is the same, as far as it gets its room, and
it gets its room if there is some for twice the frames that can wait at a time. -/
structure GoesOnAs (b other : Reserved) : Prop where
  agree : ∀ frames c, b.pushAll? frames = some c →
    ∃ d, other.pushAll? frames = some d ∧ d.1.batcher = c.1.batcher ∧ d.2 = c.2
  isSome : ∀ frames, 2 * min b.batcher.size frames.length * frameRoom ≤ roomLimit →
    (b.pushAll? frames).isSome

theorem IsAmple.goesOnAs {r : Reserved} (h : b.IsAmple) (hr : r.batcher = b.batcher)
    (hempty : b.batcher.queue = []) : r.GoesOnAs b where
  agree frames c hc := by
    have hpushed : b.batcher.pushAll frames = (c.1.batcher, c.2) := hr ▸ pushAll?_eq_some hc
    exact ⟨_, h.pushAll? frames, by rw [hpushed], by rw [hpushed]⟩
  isSome frames hroom := by
    rw [Option.isSome_iff_exists]
    refine exists_pushAll? (hr ▸ h.short) (hr ▸ h.fits) fun n hn hn' => ?_
    rw [hr, hempty, List.length_nil, Nat.zero_add] at hn'
    refine Nat.le_trans (Nat.mul_le_mul_right _ (Nat.mul_le_mul_left 2 ?_)) hroom
    exact Nat.le_min.2 ⟨hn, hn'⟩

theorem ofSize?_eq_some {size : Nat} (h : ofSize? size = some b) :
    Batcher.Fits size ∧ b = ⟨.ofSize size, Batcher.effectiveSize size⟩ := by
  rw [ofSize?, Batcher.ofSize?] at h
  split at h
  next hfits =>
    cases h
    exact ⟨hfits, rfl⟩
  next => cases h

/-- A batcher that can be had hands out a grouping of any frames, and each of its batches together
with the frame that fills it. When it has handed out what waits it holds nothing more, and goes on
as a new one. -/
theorem isGrouping_pushed {size : Nat} (h : ofSize? size = some b) (frames : List Frame) :
    ∃ c filled, b.pushAll? frames = some (c, filled) ∧
      IsGrouping (max size 1) frames (filled ++ c.finish.2.toList) ∧
      (∀ frame, ∃ d, c.push? frame = some (d, filledBy? (max size 1) (frames ++ [frame]))) ∧
      c.finish.1.finish.2 = none ∧ c.finish.1.GoesOnAs b := by
  obtain ⟨hfits, rfl⟩ := ofSize?_eq_some h
  have hample := isAmple_ofSize hfits
  have hpushed : IsAmple ⟨((Batcher.ofSize size).pushAll frames).1, Batcher.effectiveSize size⟩ :=
    hample.of_pushAll frames
  have hfinish := Batcher.finish_pushAll size frames
  refine ⟨_, _, hample.pushAll? frames, Batcher.isGrouping_pushAll size frames, fun frame => ?_,
    ?_, hample.goesOnAs hfinish rfl⟩
  · exact ⟨_, by rw [hpushed.push? frame, Batcher.push_pushAll]; rfl⟩
  · exact congrArg (fun b => (Batcher.finish b).2) hfinish

theorem isGrouping_pushed_three :
    let frames : List Frame := [⟨"a", []⟩, ⟨"b", []⟩, ⟨"c", []⟩]
    ∃ b, ofSize? 2 = some b ∧ ∃ c filled, b.pushAll? frames = some (c, filled) ∧
      IsGrouping 2 frames (filled ++ c.finish.2.toList) ∧
      (∃ d, c.push? ⟨"d", []⟩ = some (d, some [⟨"c", []⟩, ⟨"d", []⟩])) ∧
      c.finish.1.finish.2 = none ∧ c.finish.1.GoesOnAs b := by
  intro frames
  have hsize : ofSize? 2 = some ⟨.ofSize 2, 2⟩ := rfl
  obtain ⟨c, filled, hpushed, hgrouping, hnext, hrest⟩ := isGrouping_pushed hsize frames
  have hfilled : filledBy? 2 (frames ++ [⟨"d", []⟩]) = some [⟨"c", []⟩, ⟨"d", []⟩] := by decide
  exact ⟨_, hsize, c, filled, hpushed, hgrouping, hfilled ▸ hnext ⟨"d", []⟩, hrest⟩

end Reserved

end ModerationGateway.Stream
