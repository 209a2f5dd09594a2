import ModerationGateway.Stream.Batch

/-!
# Reserved room

The frames of a batch wait in one piece of memory. Room for a whole batch is reserved when the
batcher is made, and again each time a batch is handed out; a queue that has outgrown its room asks
for more. A piece larger than `roomLimit` cannot be had, and who asks for it breaks down.

* `reserve?`: ask for room;
* `Reserved`: a batcher with the room of its queue;
* `ofSize?`, `push?`, `finish`: the moves of the batcher, with what they ask for.
-/

namespace ModerationGateway.Stream

/-- Ask for room for some frames in one piece. -/
def reserve? (frames : Nat) : Option Nat :=
  if frames * frameRoom ≤ roomLimit then some frames else none

/-- A batcher with the room of its queue. -/
structure Reserved where
  batcher : Batcher
  /-- How many frames there is room for. -/
  room : Nat
  deriving DecidableEq, Repr

namespace Reserved

/-- The least room that a growing queue asks for. -/
def leastRoom : Nat := 4

/-- A batcher without frames and room for one batch. -/
def ofSize? (size : Nat) : Option Reserved :=
  (Batcher.ofSize? size).map fun batcher => ⟨batcher, batcher.size⟩

/-- The room once there is a place for one frame more. A full queue asks for twice its room. -/
def roomForNext? (b : Reserved) : Option Nat :=
  let length := b.batcher.queue.length
  if length < b.room then some b.room
  else reserve? (max leastRoom (max (2 * b.room) (length + 1)))

/-- Add a frame. The batch that it fills takes its room along, and the next one gets its own. -/
def push? (b : Reserved) (frame : Frame) : Option (Reserved × Option Batch) := do
  let room ← b.roomForNext?
  match b.batcher.push frame with
  | (batcher, none) => some (⟨batcher, room⟩, none)
  | (batcher, some batch) =>
    let room ← reserve? batcher.size
    some (⟨batcher, room⟩, some batch)

/-- Hand out the frames that wait, with their room. -/
def finish (b : Reserved) : Reserved × Option Batch :=
  let (batcher, batch) := b.batcher.finish
  (⟨batcher, if batch.isSome then 0 else b.room⟩, batch)

end Reserved

end ModerationGateway.Stream
