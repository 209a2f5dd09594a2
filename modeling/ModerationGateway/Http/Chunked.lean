import ModerationGateway.Http.Head
import ModerationGateway.Number.Digits

/-!
# Chunked bodies

Each chunk comes behind its size in hexadecimal digits. A chunk of size zero is the last one, and
headers may follow it.

* `size?`: the size of a chunk, the note behind it, and what follows its line;
* `hasTrailer`: the headers behind the last chunk come;
* `chunks`: the chunks that come, and whether all of them do.
-/

namespace ModerationGateway.Http.Chunked

open ModerationGateway.Stream

/-- A space or a tab. -/
def isBlank (b : UInt8) : Bool := b == 0x20 || b == 0x09

/-- A hexadecimal digit. -/
def isDigit (b : UInt8) : Bool := b < 0x80 && isHexDigit (Char.ofNat b.toNat)

/-- What follows the end of a line. -/
def afterLine? : Bytes → Option Bytes
  | 0x0D :: 0x0A :: rest => some rest
  | _ => none

/-- The length of a note behind a size, with what follows it and the end of its line. -/
def note? : Bytes → Option (Nat × Bytes)
  | 0x3B :: rest =>
    let note := rest.takeWhile fun b => b != 0x0D && b != 0x0A
    (afterLine? (rest.drop note.length)).map fun rest => (note.length, rest)
  | bs => (afterLine? bs).map fun rest => (0, rest)

/-- The size of a chunk, the length of the note behind it, and what follows its line. -/
def size? (bs : Bytes) : Option (Nat × Nat × Bytes) :=
  let digits := bs.takeWhile isDigit
  let size := ofDigits 16 (digits.map fun b => Char.ofNat b.toNat)
  if digits.isEmpty ∨ UInt64.size ≤ size then none
  else (note? ((bs.drop digits.length).dropWhile isBlank)).map fun note => (size, note)

theorem length_of_afterLine? {bs rest : Bytes} (h : afterLine? bs = some rest) :
    rest.length < bs.length := by
  unfold afterLine? at h
  split at h
  · simp only [Option.some.injEq] at h
    subst h
    simp only [List.length_cons]
    omega
  · simp at h

theorem length_of_note? {bs rest : Bytes} {n : Nat} (h : note? bs = some (n, rest)) :
    rest.length < bs.length := by
  unfold note? at h
  split at h
  · rename_i tail
    simp only [Option.map_eq_some_iff, Prod.mk.injEq] at h
    obtain ⟨_, h, -, rfl⟩ := h
    have := length_of_afterLine? h
    simp only [List.length_drop, List.length_cons] at this ⊢
    omega
  · simp only [Option.map_eq_some_iff, Prod.mk.injEq] at h
    obtain ⟨_, h, -, rfl⟩ := h
    exact length_of_afterLine? h

theorem length_of_size? {bs rest : Bytes} {size note : Nat}
    (h : size? bs = some (size, note, rest)) : rest.length < bs.length := by
  simp only [size?] at h
  split at h
  · simp at h
  · simp only [Option.map_eq_some_iff, Prod.mk.injEq] at h
    obtain ⟨⟨n, r⟩, h, -, rfl, rfl⟩ := h
    have := length_of_note? h
    have := (List.dropWhile_sublist isBlank
      (l := bs.drop (bs.takeWhile isDigit).length)).length_le
    simp only [List.length_drop] at this
    omega

/-- How many lines come before an empty one, and how many bytes they take with it. Every line ends
in a carriage return and a line feed. -/
def trailer? (bs : Bytes) : Option (Nat × Nat) :=
  if (afterLine? bs).isSome then some (0, 2)
  else
    let line := bs.takeWhile (· != 0x0D)
    match _ : afterLine? (bs.drop line.length) with
    | some rest => (trailer? rest).map fun (lines, size) => (lines + 1, line.length + 2 + size)
    | none => none
  termination_by bs.length
  decreasing_by
    have := length_of_afterLine? ‹_›
    simp only [List.length_drop] at this
    omega

/-- How many bytes all notes of a body, or the headers behind its last chunk, may take. -/
def room : Nat := 16384

/-- The headers behind the last chunk come. There are no more of them than lines. -/
def hasTrailer (bs : Bytes) : Bool :=
  match trailer? bs with
  | none => false
  | some (0, _) => true
  | some (lines, size) => lines ≤ Head.mostFields && size < room && (fields? lines bs).isSome

/-- The chunks that come, and news of what is missing if they are not all. So many bytes are left
for notes. -/
def chunksWithin (missing : Arrival) (left : Nat) (bs : Bytes) : List Arrival :=
  match _ : size? bs with
  | none => [missing]
  | some (size, note, rest) =>
    if left ≤ note then [missing]
    else if size = 0 then if hasTrailer rest then [] else [missing]
    else
      let chunk := rest.take size
      let arrived := if chunk.isEmpty then [] else [.chunk chunk]
      match _ : afterLine? (rest.drop size) with
      | none => arrived ++ [missing]
      | some rest => arrived ++ chunksWithin missing (left - note) rest
  termination_by bs.length
  decreasing_by
    have := length_of_size? ‹_›
    have := length_of_afterLine? ‹_›
    simp only [List.length_drop] at this
    omega

/-- The chunks that come, and news of what is missing if they are not all. -/
def chunks (missing : Arrival) (bs : Bytes) : List Arrival := chunksWithin missing room bs

example : chunks (.failed "") (Utf8.ofText "2;x\r\nab\r\n0\r\n\r\n") = [.chunk [0x61, 0x62]] := by
  cbv
example : chunks (.failed "") (Utf8.ofText "3\r\nab") = [.chunk [0x61, 0x62], .failed ""] := by
  cbv

end ModerationGateway.Http.Chunked
