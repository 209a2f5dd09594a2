import Mathlib.Algebra.Order.Floor.Div
import ModerationGateway.Proofs.Stream.Conservation

/-!
# The sizes of batches

A batch is handed out by the very frame that fills it, so that fewer frames wait than a batch holds,
and the batches handed out are all of one size. With those that wait at the end they are a grouping
of the frames: all batches are full but the last one, which holds what is left.

* `IsGrouping`: batches that are the frames in order, full up to the last one;
* `filledBy?`: the batch that the last one of some frames fills;
* `Batcher.IsShort`: what pushes keep;
* `IsShort.pushAll`: the sizes of the batches that frames fill;
* `IsShort.length_pushAll`, `queue_pushAll_eq_nil_iff`: the number of frames, and when none of them
  waits;
* `isGrouping_pushAll`, `push_pushAll`: the batches of all frames, and the one that a frame fills.
-/

namespace ModerationGateway.Stream

/-! ### Groupings -/

/-- Batches of a size: in order they are the frames, there are no more of them than are needed, all
but the last one are full, and the last one is neither empty nor larger than the others. -/
structure IsGrouping (size : Nat) (frames : List Frame) (batches : List Batch) : Prop where
  flatten : batches.flatten = frames
  length : batches.length = frames.length ⌈/⌉ size
  full : ∀ batch ∈ batches.dropLast, batch.length = size
  last : ∀ batch ∈ batches.getLast?, 1 ≤ batch.length ∧ batch.length ≤ size

/-- The batch that the last one of some frames fills: so many of the last frames as a batch holds, if
the frames come to whole batches. -/
def filledBy? (size : Nat) (frames : List Frame) : Option Batch :=
  if size ∣ frames.length then some (frames.drop (frames.length - size)) else none

section

variable {size : Nat} {filled : List Batch} {rest : Batch}

theorem length_flatten_of_full (h : ∀ batch ∈ filled, batch.length = size) :
    filled.flatten.length = filled.length * size := by
  rw [List.length_flatten, List.map_eq_replicate_iff.2 h, List.sum_replicate_nat]

theorem isGrouping_of_full (hsize : 0 < size) (h : ∀ batch ∈ filled, batch.length = size) :
    IsGrouping size filled.flatten filled := by
  refine ⟨rfl, ?_, fun batch hbatch => ?_, fun batch hbatch => ?_⟩
  · rw [length_flatten_of_full h, Nat.mul_comm]
    exact (smul_ceilDiv hsize _).symm
  · exact h batch (List.mem_of_mem_dropLast hbatch)
  · rw [h batch (List.mem_of_getLast? hbatch)]
    exact ⟨hsize, Nat.le_refl size⟩

theorem isGrouping_concat (h : ∀ batch ∈ filled, batch.length = size) (hpos : 0 < rest.length)
    (hrest : rest.length < size) :
    IsGrouping size (filled.flatten ++ rest) (filled ++ [rest]) := by
  refine ⟨by simp, ?_, fun batch hbatch => ?_, fun batch hbatch => ?_⟩
  · have hsum : filled.length * size + rest.length + size - 1 =
        size * (filled.length + 1) + (rest.length - 1) := by
      rw [Nat.mul_comm, Nat.mul_succ]
      omega
    rw [List.length_append, List.length_append, length_flatten_of_full h, List.length_singleton,
      Nat.ceilDiv_eq_add_pred_div, hsum, Nat.mul_add_div (Nat.zero_lt_of_lt hrest),
      Nat.div_eq_of_lt (by omega), Nat.add_zero]
  · rw [List.dropLast_concat] at hbatch
    exact h batch hbatch
  · rw [List.getLast?_concat] at hbatch
    obtain rfl := Option.mem_some.1 hbatch
    exact ⟨hpos, Nat.le_of_lt hrest⟩

/-- Behind full batches the last frames fill one exactly if they are enough for it. -/
theorem filledBy?_append (h : ∀ batch ∈ filled, batch.length = size) (hpos : 0 < rest.length)
    (hrest : rest.length ≤ size) :
    filledBy? size (filled.flatten ++ rest) = if size ≤ rest.length then some rest else none := by
  have hlength := length_flatten_of_full h
  have hdvd : size ∣ filled.length * size + rest.length ↔ size ≤ rest.length := by
    rw [Nat.dvd_add_right (Nat.dvd_mul_left _ _)]
    exact ⟨Nat.le_of_dvd hpos, fun hfull => dvd_of_eq (Nat.le_antisymm hfull hrest)⟩
  rw [filledBy?, List.length_append, hlength]
  by_cases hfull : size ≤ rest.length
  · rw [if_pos hfull, if_pos (hdvd.2 hfull), Nat.le_antisymm hrest hfull, Nat.add_sub_cancel,
      List.drop_left' hlength]
  · rw [if_neg hfull, if_neg (mt hdvd.1 hfull)]

end

/-! ### Pushing -/

namespace Batcher

variable {b : Batcher}

@[simp] theorem size_ofSize (size : Nat) : (ofSize size).size = effectiveSize size := rfl

/-- Fewer frames wait than a batch holds. -/
def IsShort (b : Batcher) : Prop := b.queue.length < b.size

theorem isShort_ofSize (size : Nat) : (ofSize size).IsShort :=
  Nat.lt_of_lt_of_le Nat.zero_lt_one (Nat.le_max_right size 1)

@[simp] theorem size_push (b : Batcher) (frame : Frame) : (b.push frame).1.size = b.size := by
  unfold push
  dsimp only
  split <;> rfl

@[simp] theorem size_pushAll (b : Batcher) (frames : List Frame) :
    (b.pushAll frames).1.size = b.size := by
  induction frames generalizing b with
  | nil => rfl
  | cons frame frames ih => rw [pushAll_cons, ih, size_push]

theorem IsShort.push (h : b.IsShort) (frame : Frame) :
    (b.push frame).1.IsShort ∧ ∀ batch ∈ (b.push frame).2, batch.length = b.size := by
  have hlength : (b.queue ++ [frame]).length = b.queue.length + 1 := List.length_append
  unfold Batcher.push
  dsimp only
  split
  next hfull =>
    refine ⟨Nat.lt_of_le_of_lt (Nat.zero_le _) h, ?_⟩
    rintro batch ⟨⟩
    exact Nat.le_antisymm (hlength ▸ h) hfull
  next hshort => exact ⟨Nat.lt_of_not_le hshort, fun _ hnone => nomatch hnone⟩

theorem IsShort.pushAll (h : b.IsShort) (frames : List Frame) :
    (b.pushAll frames).1.IsShort ∧ ∀ batch ∈ (b.pushAll frames).2, batch.length = b.size := by
  induction frames generalizing b with
  | nil => exact ⟨h, fun _ hnil => nomatch hnil⟩
  | cons frame frames ih =>
    obtain ⟨hshort, hfilled⟩ := h.push frame
    obtain ⟨hlast, hlater⟩ := ih hshort
    rw [size_push] at hlater
    refine ⟨hlast, fun batch hbatch => ?_⟩
    rcases List.mem_append.1 (pushAll_cons b frame frames ▸ hbatch) with hfirst | hrest
    · exact hfilled batch (Option.mem_toList.1 hfirst)
    · exact hlater batch hrest

/-- Every frame is in a batch or waits. -/
theorem IsShort.length_pushAll (h : b.IsShort) (frames : List Frame) :
    (b.pushAll frames).2.length * b.size + (b.pushAll frames).1.queue.length =
      b.queue.length + frames.length := by
  have hframes := congrArg List.length (b.flatten_pushAll frames)
  rwa [List.length_append, List.length_append, length_flatten_of_full (h.pushAll frames).2]
    at hframes

/-- None of the frames waits exactly if they come to whole batches. -/
theorem queue_pushAll_eq_nil_iff (size : Nat) (frames : List Frame) :
    ((ofSize size).pushAll frames).1.queue = [] ↔ effectiveSize size ∣ frames.length := by
  have hlength := (isShort_ofSize size).length_pushAll frames
  have hwaiting : ((ofSize size).pushAll frames).1.queue.length <
      ((ofSize size).pushAll frames).1.size := ((isShort_ofSize size).pushAll frames).1
  rw [size_pushAll, size_ofSize] at hwaiting
  rw [queue_ofSize, size_ofSize, List.length_nil, Nat.zero_add] at hlength
  constructor
  · intro hnil
    rw [← hlength, hnil]
    exact Nat.dvd_mul_left _ _
  · intro hdvd
    rw [← hlength, Nat.dvd_add_right (Nat.dvd_mul_left _ _)] at hdvd
    exact List.length_eq_zero_iff.1 (Nat.eq_zero_of_dvd_of_lt hdvd hwaiting)

/-- The batches of frames that are pushed, with what waits at the end as the last one. -/
theorem isGrouping_pushAll (size : Nat) (frames : List Frame) :
    IsGrouping (effectiveSize size) frames
      (((ofSize size).pushAll frames).2 ++
        ((ofSize size).pushAll frames).1.finish.2.toList) := by
  have hframes := (ofSize size).flatten_pushAll frames
  obtain ⟨hshort, hfilled⟩ := (isShort_ofSize size).pushAll frames
  rw [queue_ofSize, List.nil_append] at hframes
  rw [IsShort, size_pushAll] at hshort
  generalize (ofSize size).pushAll frames = pushed at *
  rw [← hframes, finish]
  cases hqueue : pushed.1.queue with
  | nil => simpa using isGrouping_of_full (Nat.zero_lt_of_lt hshort) hfilled
  | cons frame queue =>
    rw [hqueue] at hshort
    exact isGrouping_concat hfilled (Nat.zero_lt_succ _) hshort

/-- When what waits has been handed out, nothing is left of the frames. -/
theorem finish_pushAll (size : Nat) (frames : List Frame) :
    ((ofSize size).pushAll frames).1.finish.1 = ofSize size := by
  rw [finish, size_pushAll]
  rfl

/-- A frame hands out the batch that it fills. -/
theorem push_pushAll (size : Nat) (frames : List Frame) (frame : Frame) :
    (((ofSize size).pushAll frames).1.push frame).2 =
      filledBy? (effectiveSize size) (frames ++ [frame]) := by
  have hframes := (ofSize size).flatten_pushAll frames
  obtain ⟨hshort, hfilled⟩ := (isShort_ofSize size).pushAll frames
  have hsize := (ofSize size).size_pushAll frames
  rw [queue_ofSize, List.nil_append] at hframes
  generalize (ofSize size).pushAll frames = pushed at *
  rw [size_ofSize] at hfilled hsize
  rw [IsShort, hsize] at hshort
  have hlength : (pushed.1.queue ++ [frame]).length = pushed.1.queue.length + 1 :=
    List.length_append
  rw [← hframes, List.append_assoc,
    filledBy?_append hfilled (hlength ▸ Nat.succ_pos _) (hlength ▸ hshort), push, hsize]
  split <;> rfl

end Batcher

end ModerationGateway.Stream
