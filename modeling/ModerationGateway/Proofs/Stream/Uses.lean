import ModerationGateway.Proofs.Stream.Conservation

/-!
# An assembler in use

Chunks are fed and the stream is ended in any order and any number of times; an assembler that was
ended goes on with what comes after. At every moment what was handed out and what is held back are
together what was fed.

* `Use`, `Output`: a chunk fed or the stream ended, and what is handed out for it;
* `Assembler.use`, `Assembler.useAll`: one use, and uses one after the other;
* `bytes_use`: what one use hands out and keeps;
* `useAll_conserves`: what any uses hand out and keep, by bytes and by number.
-/

namespace ModerationGateway.Stream

/-- A use of an assembler. -/
inductive Use where
  | feed (chunk : Bytes)
  | finish
  deriving DecidableEq, Repr

/-- The bytes that come in with a use. -/
def Use.fed : Use → Bytes
  | feed chunk => chunk
  | finish => []

/-- What a use hands out: frames, and bytes that belong to none. -/
structure Output where
  frames : List Frame
  trailing : Bytes
  deriving DecidableEq, Repr

/-- The bytes handed out, in order. -/
def Output.bytes (o : Output) : Bytes := Batch.bytes o.frames ++ o.trailing

/-- The bytes of some outputs, in order. -/
def returned (outputs : List Output) : Bytes := outputs.flatMap Output.bytes

@[simp] theorem returned_cons (o : Output) (outputs : List Output) :
    returned (o :: outputs) = o.bytes ++ returned outputs := rfl

namespace Assembler

/-- Feed a chunk or end the stream. -/
def use (a : Assembler) : Use → Assembler × Output
  | .feed chunk => ((a.feed chunk).1, ⟨(a.feed chunk).2, []⟩)
  | .finish => (a.finish.1, ⟨a.finish.2.frame.toList, a.finish.2.trailing⟩)

/-- Uses one after the other, with what each hands out. -/
def useAll (a : Assembler) : List Use → Assembler × List Output
  | [] => (a, [])
  | u :: uses =>
    let (a, o) := a.use u
    let (a, outputs) := a.useAll uses
    (a, o :: outputs)

theorem useAll_cons (a : Assembler) (u : Use) (uses : List Use) :
    a.useAll (u :: uses) =
      (((a.use u).1.useAll uses).1, (a.use u).2 :: ((a.use u).1.useAll uses).2) := rfl

/-- What a use hands out and what is held after it are what was held before and what came in. -/
theorem bytes_use (a : Assembler) (u : Use) :
    (a.use u).2.bytes ++ (a.use u).1.held = a.held ++ u.fed := by
  cases u with
  | feed chunk =>
    simp only [use, Output.bytes, List.append_nil, Use.fed]
    exact a.bytes_feed chunk
  | finish =>
    simp only [use, Output.bytes, finish_fst, held_empty, List.append_nil, Use.fed]
    exact a.bytes_finish

theorem bytes_useAll (a : Assembler) (uses : List Use) :
    returned (a.useAll uses).2 ++ (a.useAll uses).1.held = a.held ++ uses.flatMap Use.fed := by
  induction uses generalizing a with
  | nil => simp [useAll, returned]
  | cons u uses ih =>
    rw [useAll_cons, returned_cons, List.append_assoc, ih, ← List.append_assoc, bytes_use,
      List.append_assoc, List.flatMap_cons]

/-- After any uses, what was handed out so far and what is still held are what was fed so far. The
number of bytes held is therefore that of the bytes fed and not handed out, and none are held once
the stream was ended. -/
theorem useAll_conserves (uses : List Use) :
    let (a, outputs) := empty.useAll uses
    returned outputs ++ (a.orphan ++ a.pending) = uses.flatMap Use.fed ∧
      a.buffered + (returned outputs).length = (uses.flatMap Use.fed).length ∧
      (a.use .finish).1.buffered = 0 := by
  have hbytes := bytes_useAll empty uses
  rw [held_empty, List.nil_append] at hbytes
  have hlength := congrArg List.length hbytes
  rw [List.length_append, ← buffered_eq_length_held, Nat.add_comm] at hlength
  refine ⟨hbytes, hlength, ?_⟩
  rw [use, finish_fst, buffered_empty]

end Assembler

end ModerationGateway.Stream
