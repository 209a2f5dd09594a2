import ModerationGateway.Text.Blank
import ModerationGateway.Text.Utf8

/-!
# Lines of a byte stream

Bytes arrive in chunks that know nothing of lines. The assembler cuts them at line feeds and hands
out a frame for every line that is not blank: its text, and the bytes that stand for it. The bytes
of a blank line travel with the last frame of the same chunk, or else wait for the next frame, so
that forwarding all frames forwards every byte.

* `Frame`: a line's text and its bytes;
* `cutLines`: the complete lines of a byte string and the unterminated rest;
* `Assembler`, `Assembler.feed`, `Assembler.finish`: the state between chunks and its two moves;
* `Assembler.held`: the bytes not handed out yet.
-/

namespace ModerationGateway.Stream

/-- A line that is not blank: its text, and the bytes that are forwarded for it. -/
structure Frame where
  text : String
  raw : Bytes
  deriving DecidableEq, Repr

/-- The byte that ends a line. -/
def lineFeed : UInt8 := 10

/-- The complete lines of a byte string, each with its line feed, and the rest. -/
def cutLines : Bytes → List Bytes × Bytes
  | [] => ([], [])
  | b :: bs =>
    let (lines, rest) := cutLines bs
    if b = lineFeed then ([b] :: lines, rest)
    else match lines with
      | [] => ([], b :: rest)
      | line :: lines => ((b :: line) :: lines, rest)

/-- A line without the carriage return at its end. -/
def dropReturn (line : Bytes) : Bytes :=
  if line.getLast? = some 13 then line.dropLast else line

/-- The text of a line whose line feed has been removed. -/
def decodeLine (line : Bytes) : List Char := Utf8.decodeLossy (dropReturn line)

/-- The frames gathered from a chunk so far, the latest first, and the blank lines that still wait
for a frame. -/
structure Gathering where
  orphan : Bytes
  frames : List Frame
  deriving DecidableEq, Repr

/-- Take in a complete line. -/
def Gathering.add (g : Gathering) (line : Bytes) : Gathering :=
  let text := decodeLine line.dropLast
  if Text.isBlankText text then
    match g.frames with
    | last :: earlier => { g with frames := { last with raw := last.raw ++ line } :: earlier }
    | [] => { g with orphan := g.orphan ++ line }
  else ⟨[], ⟨String.ofList text, g.orphan ++ line⟩ :: g.frames⟩

/-- The bytes between two chunks: the unterminated line, how much of it is known to hold no line
feed, and the blank lines that wait for a frame. -/
structure Assembler where
  pending : Bytes
  scanned : Nat
  orphan : Bytes
  deriving DecidableEq, Repr

/-- What is left at the end: a last frame, or bytes that belong to none. -/
structure Flush where
  frame : Option Frame
  trailing : Bytes
  deriving DecidableEq, Repr

namespace Assembler

/-- The assembler before the first chunk. -/
def empty : Assembler := ⟨[], 0, []⟩

/-- The number of bytes that were fed and not handed out yet. -/
def buffered (a : Assembler) : Nat := a.pending.length + a.orphan.length

/-- The bytes that were fed and not handed out yet, in order. -/
def held (a : Assembler) : Bytes := a.orphan ++ a.pending

/-- The complete lines after a chunk and the new unterminated line. Only the bytes beyond the
scanned ones are searched for a line feed. -/
def cut (a : Assembler) (chunk : Bytes) : List Bytes × Bytes :=
  let buffer := a.pending ++ chunk
  let known := buffer.take a.scanned
  match cutLines (buffer.drop a.scanned) with
  | ([], rest) => ([], known ++ rest)
  | (line :: lines, rest) => ((known ++ line) :: lines, rest)

/-- Feed a chunk: the frames of the lines that it completes. -/
def feed (a : Assembler) (chunk : Bytes) : Assembler × List Frame :=
  let (lines, rest) := a.cut chunk
  let g := lines.foldl Gathering.add ⟨a.orphan, []⟩
  (⟨rest, rest.length, g.orphan⟩, g.frames.reverse)

/-- End the stream: the unterminated line becomes a frame unless it is blank. -/
def finish (a : Assembler) : Assembler × Flush :=
  let text := decodeLine a.pending
  if Text.isBlankText text then (empty, ⟨none, a.held⟩)
  else (empty, ⟨some ⟨String.ofList text, a.held⟩, []⟩)

@[simp] theorem buffered_empty : empty.buffered = 0 := rfl

theorem buffered_eq_length_held (a : Assembler) : a.buffered = a.held.length := by
  simp [buffered, held, Nat.add_comm]

@[simp] theorem finish_fst (a : Assembler) : a.finish.1 = empty := by
  unfold finish
  dsimp only
  split <;> rfl

end Assembler

/-! ### Cutting at line feeds -/

@[simp] theorem cutLines_nil : cutLines [] = ([], []) := rfl

/-- Cutting loses no byte. -/
theorem cutLines_flatten (bs : Bytes) : (cutLines bs).1.flatten ++ (cutLines bs).2 = bs := by
  induction bs with
  | nil => rfl
  | cons b bs ih =>
    simp only [cutLines]
    split
    · simpa using ih
    · cases h : (cutLines bs).1 with
      | nil => simpa [h] using ih
      | cons line lines => simpa [h] using ih

end ModerationGateway.Stream
