import ModerationGateway.Chat.Reply
import ModerationGateway.Stream.Frame

/-!
# Batches of frames

Frames are decided on in groups. A batch is closed by the very frame that fills it; the last one
may be shorter.

* `Batch`, `Batch.raws`, `Batch.delta`: a group, its bytes and the text it adds to the answer;
* `Batcher`, `Batcher.push`, `Batcher.finish`: the frames that wait for their batch to fill;
* `Batcher.ofSize?`: a batcher reserves room for a whole batch and cannot be had for a size whose
  room cannot exist.
-/

namespace ModerationGateway.Stream

/-- A group of frames. -/
abbrev Batch := List Frame

namespace Batch

/-- The bytes of the frames, in order. -/
def raws (batch : Batch) : List Bytes := batch.map (·.raw)

/-- The text that the frames add to the answer. -/
def delta (batch : Batch) : String := String.join (batch.filterMap fun f => Chat.delta? f.text)

@[simp] theorem raws_nil : raws [] = [] := rfl
@[simp] theorem raws_append (a b : Batch) : raws (a ++ b) = raws a ++ raws b := by simp [raws]

end Batch

/-- The bytes that a reserved frame takes. -/
def frameRoom : Nat := 56

/-- The most bytes that can be reserved in one piece. -/
def roomLimit : Nat := 0x7FFFFFFFFFFFFFFF

/-- The frames that wait for a batch of the given size. -/
structure Batcher where
  size : Nat
  queue : Batch
  deriving DecidableEq, Repr

namespace Batcher

/-- Batches hold at least one frame. -/
def effectiveSize (size : Nat) : Nat := max size 1

/-- The room for a batch of this size can be reserved. -/
def Fits (size : Nat) : Prop := effectiveSize size * frameRoom ≤ roomLimit

instance (size : Nat) : Decidable (Fits size) := inferInstanceAs (Decidable (_ ≤ _))

/-- A batcher without frames. -/
def ofSize (size : Nat) : Batcher := ⟨effectiveSize size, []⟩

/-- A batcher without frames, if its room can be reserved. -/
def ofSize? (size : Nat) : Option Batcher := if Fits size then some (ofSize size) else none

/-- Add a frame. The batch that it fills is handed out. -/
def push (b : Batcher) (frame : Frame) : Batcher × Option Batch :=
  let queue := b.queue ++ [frame]
  if b.size ≤ queue.length then ({ b with queue := [] }, some queue)
  else ({ b with queue }, none)

/-- Hand out the frames that wait, if there are any. -/
def finish (b : Batcher) : Batcher × Option Batch :=
  ({ b with queue := [] }, if b.queue.isEmpty then none else some b.queue)

@[simp] theorem queue_ofSize (size : Nat) : (ofSize size).queue = [] := rfl

/-- Before a push and after it the frames are the same. -/
theorem queue_push (b : Batcher) (frame : Frame) :
    (b.push frame).2.getD [] ++ (b.push frame).1.queue = b.queue ++ [frame] := by
  unfold push
  dsimp only
  split <;> simp

end Batcher

end ModerationGateway.Stream
