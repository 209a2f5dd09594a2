import ModerationGateway.Stream.Batch

/-!
# No byte is lost

Forwarding every frame and the trailing bytes forwards what was fed, byte for byte and in order.
A line that is blank is the only difficulty: its bytes go to the last frame of the same chunk, and
wait as orphans only while there is none.

* `Batch.bytes`: the bytes that some frames stand for;
* `bytes_feed`, `bytes_finish`: what the two moves of an assembler hand out and what they keep;
* `Assembler.feedAll`: chunks fed one after the other, with all their frames;
* `Batcher.pushAll`: frames pushed one after the other, with the batches that they fill;
* `flatten_pushAll`: the batches and the frames that still wait are the frames pushed.
-/

namespace ModerationGateway.Stream

namespace Batch

/-- The bytes that some frames stand for. -/
def bytes (batch : Batch) : Bytes := batch.flatMap (·.raw)

@[simp] theorem bytes_nil : bytes [] = [] := rfl

@[simp] theorem bytes_cons (frame : Frame) (batch : Batch) :
    bytes (frame :: batch) = frame.raw ++ bytes batch := rfl

@[simp] theorem bytes_append (a b : Batch) : bytes (a ++ b) = bytes a ++ bytes b := by
  simp [bytes]

@[simp] theorem flatten_raws (batch : Batch) : (raws batch).flatten = bytes batch := by
  simp [raws, bytes, List.flatMap_def]

end Batch

/-! ### Lines gathered from a chunk -/

namespace Gathering

/-- Orphans wait only while there is no frame to take them. -/
def Settled (g : Gathering) : Prop := g.frames = [] ∨ g.orphan = []

/-- The bytes of the frames so far and of the orphans after them. -/
def bytes (g : Gathering) : Bytes := Batch.bytes g.frames.reverse ++ g.orphan

theorem settled_add {g : Gathering} (h : g.Settled) (line : Bytes) : (g.add line).Settled := by
  unfold add
  dsimp only
  split
  · split
    next last earlier hf =>
      rcases h with h | h
      · simp [hf] at h
      · exact Or.inr h
    next hf => exact Or.inl hf
  · exact Or.inr rfl

theorem bytes_add {g : Gathering} (h : g.Settled) (line : Bytes) :
    (g.add line).bytes = g.bytes ++ line := by
  unfold add
  dsimp only
  split
  · split
    next last earlier hf =>
      rcases h with h | h
      · simp [hf] at h
      · simp [bytes, hf, h]
    next hf => simp [bytes, hf]
  · simp [bytes]

theorem bytes_foldl_add {g : Gathering} (h : g.Settled) (lines : List Bytes) :
    (lines.foldl add g).bytes = g.bytes ++ lines.flatten := by
  induction lines generalizing g with
  | nil => simp
  | cons line lines ih =>
    rw [List.foldl_cons, ih (settled_add h line), bytes_add h, List.flatten_cons, List.append_assoc]

end Gathering

/-! ### Feeding and finishing -/

namespace Assembler

/-- The lines of a chunk and the new rest are the old rest and the chunk. -/
theorem cut_flatten (a : Assembler) (chunk : Bytes) :
    (a.cut chunk).1.flatten ++ (a.cut chunk).2 = a.pending ++ chunk := by
  have hbuffer := List.take_append_drop a.scanned (a.pending ++ chunk)
  have hcut := cutLines_flatten ((a.pending ++ chunk).drop a.scanned)
  unfold cut
  dsimp only
  split
  next rest h =>
    simp only [h, List.flatten_nil, List.nil_append] at hcut ⊢
    rw [hcut, hbuffer]
  next line lines rest h =>
    simp only [h, List.flatten_cons, List.append_assoc] at hcut ⊢
    rw [hcut, hbuffer]

/-- What a chunk makes an assembler hand out, and what it keeps, is what it kept and the chunk. -/
theorem bytes_feed (a : Assembler) (chunk : Bytes) :
    Batch.bytes (a.feed chunk).2 ++ (a.feed chunk).1.held = a.held ++ chunk := by
  have hgather := Gathering.bytes_foldl_add (g := ⟨a.orphan, []⟩) (Or.inl rfl) (a.cut chunk).1
  have hcut := a.cut_flatten chunk
  simp only [Gathering.bytes, List.reverse_nil, Batch.bytes_nil, List.nil_append] at hgather
  simp only [feed, held]
  rw [← List.append_assoc, hgather, List.append_assoc, hcut, List.append_assoc]

/-- At the end everything is handed out. -/
theorem bytes_finish (a : Assembler) :
    Batch.bytes a.finish.2.frame.toList ++ a.finish.2.trailing = a.held := by
  unfold finish
  dsimp only
  split <;> simp

@[simp] theorem held_empty : empty.held = [] := rfl

/-- Feed chunks one after the other: the frames of the lines that they complete. -/
def feedAll (a : Assembler) : List Bytes → Assembler × List Frame
  | [] => (a, [])
  | chunk :: chunks =>
    let (a, frames) := a.feed chunk
    let (a, more) := a.feedAll chunks
    (a, frames ++ more)

@[simp] theorem feedAll_nil (a : Assembler) : a.feedAll [] = (a, []) := rfl

theorem feedAll_cons (a : Assembler) (chunk : Bytes) (chunks : List Bytes) :
    a.feedAll (chunk :: chunks) =
      (((a.feed chunk).1.feedAll chunks).1,
        (a.feed chunk).2 ++ ((a.feed chunk).1.feedAll chunks).2) := rfl

theorem bytes_feedAll (a : Assembler) (chunks : List Bytes) :
    Batch.bytes (a.feedAll chunks).2 ++ (a.feedAll chunks).1.held = a.held ++ chunks.flatten := by
  induction chunks generalizing a with
  | nil => simp
  | cons chunk chunks ih =>
    rw [feedAll_cons, Batch.bytes_append, List.append_assoc, ih, ← List.append_assoc, bytes_feed,
      List.append_assoc, List.flatten_cons]

end Assembler

/-! ### Grouping -/

namespace Batcher

/-- Push frames one after the other: the batches that they fill. -/
def pushAll (b : Batcher) : List Frame → Batcher × List Batch
  | [] => (b, [])
  | frame :: frames =>
    let (b, filled) := b.push frame
    let (b, batches) := b.pushAll frames
    (b, filled.toList ++ batches)

@[simp] theorem pushAll_nil (b : Batcher) : b.pushAll [] = (b, []) := rfl

theorem pushAll_cons (b : Batcher) (frame : Frame) (frames : List Frame) :
    b.pushAll (frame :: frames) =
      (((b.push frame).1.pushAll frames).1,
        (b.push frame).2.toList ++ ((b.push frame).1.pushAll frames).2) := rfl

theorem pushAll_append (b : Batcher) (frames more : List Frame) :
    b.pushAll (frames ++ more) =
      (((b.pushAll frames).1.pushAll more).1,
        (b.pushAll frames).2 ++ ((b.pushAll frames).1.pushAll more).2) := by
  induction frames generalizing b with
  | nil => rfl
  | cons frame frames ih => simp [pushAll_cons, ih]

/-- Every frame pushed is in a batch or still waits, and none is moved. -/
theorem flatten_pushAll (b : Batcher) (frames : List Frame) :
    (b.pushAll frames).2.flatten ++ (b.pushAll frames).1.queue = b.queue ++ frames := by
  induction frames generalizing b with
  | nil => simp
  | cons frame frames ih =>
    have hpush := b.queue_push frame
    have hfilled : (b.push frame).2.toList.flatten = (b.push frame).2.getD [] := by
      cases (b.push frame).2 <;> simp
    rw [pushAll_cons, List.flatten_append, List.append_assoc, ih, hfilled, ← List.append_assoc,
      hpush, List.append_assoc, List.singleton_append]

/-- What waits is the last batch. -/
theorem getD_finish (b : Batcher) : b.finish.2.getD [] = b.queue := by
  unfold finish
  cases b.queue <;> rfl

end Batcher

end ModerationGateway.Stream
