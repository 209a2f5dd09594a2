import ModerationGateway.Proofs.Loop
import ModerationGateway.Proofs.Stream.Content

/-!
# Searching only what is new

Between two chunks an assembler remembers how much of the unterminated line it has searched, and it
searches on from there. While a chunk is fed, one line after the other is split off in front, and
each time the search begins anew. No line feed is ever missed by this: what counts as searched is
there and holds none. So an assembler that searches all of its bytes every time hands out the same.

* `Assembler.seek`, `Assembler.feedRound`: the next line feed, and a line split off and gathered;
* `Assembler.HidesNone`, `Assembler.feedRound_cases`: no line feed among what counts as searched,
  and what a round comes to then;
* `Assembler.ends_feedRound`: the rounds end with what `Assembler.feed` says;
* `Assembler.Performs`, `Assembler.performs_useAll`: uses whose chunks are fed in rounds;
* `Assembler.scansAll_useAll`: what an assembler is after any uses, and what it has handed out.
-/

namespace ModerationGateway.Stream

/-- Up to the first line feed there is one line. -/
theorem cutLines_append_cons {xs : Bytes} (h : lineFeed ∉ xs) (ys : Bytes) :
    cutLines (xs ++ lineFeed :: ys) =
      ((xs ++ [lineFeed]) :: (cutLines ys).1, (cutLines ys).2) := by
  rw [cutLines_append_of_not_mem h]
  simp [cutLines]

namespace Assembler

/-! ### Rounds -/

/-- The place of the next line feed beyond what counts as searched. After that nothing counts as
searched if there is one, and everything if there is none. -/
def seek (a : Assembler) : Option Nat × Assembler :=
  match (a.pending.drop a.scanned).findIdx? (· == lineFeed) with
  | some offset => (some (a.scanned + offset), { a with scanned := 0 })
  | none => (none, { a with scanned := a.pending.length })

/-- The assembler that begins a search, from the start or from what counts as searched. -/
def atSearch (fresh : Bool) (a : Assembler) : Assembler :=
  if fresh then { a with scanned := 0 } else a

/-- An assembler while a chunk is fed, and the frames so far, the latest first. -/
abbrev Feeding := Assembler × List Frame

/-- A line is split off in front and gathered, or there is none. A search cannot begin beyond the
end. -/
def feedRound (fresh : Bool) (s : Feeding) : Option (Loop.Round Feeding (Assembler × List Frame)) :=
  let a := s.1.atSearch fresh
  if a.pending.length < a.scanned then none
  else match a.seek with
    | (none, a) => some (.done (a, s.2.reverse))
    | (some pos, a) =>
      let g := Gathering.add ⟨a.orphan, s.2⟩ (a.pending.take (pos + 1))
      some (.again (⟨a.pending.drop (pos + 1), a.scanned, g.orphan⟩, g.frames))

/-- What counts as searched is there and holds no line feed. -/
structure HidesNone (a : Assembler) : Prop where
  scanned_le : a.scanned ≤ a.pending.length
  not_mem : lineFeed ∉ a.pending.take a.scanned

variable {a : Assembler} {fresh : Bool} {frames : List Frame}

theorem hidesNone_of_scanned_eq_zero (h : a.scanned = 0) : a.HidesNone :=
  ⟨h ▸ Nat.zero_le _, by rw [h, List.take_zero]; exact List.not_mem_nil⟩

theorem HidesNone.atSearch (h : a.HidesNone) (fresh : Bool) : (a.atSearch fresh).HidesNone := by
  cases fresh with
  | false => exact h
  | true => exact hidesNone_of_scanned_eq_zero rfl

/-- The bytes of a chunk come in. -/
def buffer (a : Assembler) (chunk : Bytes) : Assembler := { a with pending := a.pending ++ chunk }

theorem IsScanned.hidesNone (h : a.IsScanned) (chunk : Bytes) : (a.buffer chunk).HidesNone := by
  obtain ⟨hscanned, hpending⟩ := h
  constructor
  · simp only [buffer, List.length_append]
    omega
  · simp only [buffer, List.take_append_of_le_length hscanned]
    exact fun hmem => hpending (List.mem_of_mem_take hmem)

/-- Among what is held there is no line feed and the search says so, or it finds the first one. -/
theorem seek_cases (h : a.HidesNone) :
    (lineFeed ∉ a.pending ∧ a.seek = (none, { a with scanned := a.pending.length })) ∨
      ∃ front back, lineFeed ∉ front ∧ a.pending = front ++ lineFeed :: back ∧
        a.seek = (some front.length, { a with scanned := 0 }) := by
  have hsplit := List.take_append_drop a.scanned a.pending
  cases hfind : (a.pending.drop a.scanned).findIdx? (· == lineFeed) with
  | none =>
    refine .inl ⟨?_, by rw [seek, hfind]⟩
    rw [← hsplit, List.mem_append, not_or]
    refine ⟨h.not_mem, fun hmem => ?_⟩
    simpa using List.findIdx?_eq_none_iff.1 hfind lineFeed hmem
  | some offset =>
    obtain ⟨hlt, hfeed, hbefore⟩ := List.findIdx?_eq_some_iff_getElem.1 hfind
    -- the search passes over what counts as searched and what stands before the line feed
    refine .inr ⟨a.pending.take a.scanned ++ (a.pending.drop a.scanned).take offset,
      (a.pending.drop a.scanned).drop (offset + 1), ?_, ?_, ?_⟩
    · rw [List.mem_append, not_or]
      refine ⟨h.not_mem, fun hmem => ?_⟩
      obtain ⟨j, hj, heq⟩ := List.mem_take_iff_getElem.1 hmem
      exact hbefore j (by omega) (by rw [heq, beq_self_eq_true])
    · rw [← beq_iff_eq.1 hfeed, List.append_assoc, ← List.drop_eq_getElem_cons hlt,
        List.take_append_drop, hsplit]
    · have hle := h.scanned_le
      have hscanned : (a.pending.take a.scanned).length = a.scanned := List.length_take_of_le hle
      have hoffset : ((a.pending.drop a.scanned).take offset).length = offset :=
        List.length_take_of_le (Nat.le_of_lt hlt)
      rw [seek, hfind, List.length_append, hscanned, hoffset]

/-- A round ends the search if there is no line feed, and else splits off the line up to the first
one. Where the search begins does not matter. -/
theorem feedRound_cases (h : a.HidesNone) (fresh : Bool) (frames : List Frame) :
    (lineFeed ∉ a.pending ∧ feedRound fresh (a, frames) =
        some (.done ({ a with scanned := a.pending.length }, frames.reverse))) ∨
      ∃ front back, lineFeed ∉ front ∧ a.pending = front ++ lineFeed :: back ∧
        let g := Gathering.add ⟨a.orphan, frames⟩ (front ++ [lineFeed])
        feedRound fresh (a, frames) = some (.again (⟨back, 0, g.orphan⟩, g.frames)) := by
  have hsearch := h.atSearch fresh
  have hpending : (a.atSearch fresh).pending = a.pending := by cases fresh <;> rfl
  have horphan : (a.atSearch fresh).orphan = a.orphan := by cases fresh <;> rfl
  have hle : ¬ a.pending.length < (a.atSearch fresh).scanned :=
    Nat.not_lt.2 (hpending ▸ hsearch.scanned_le)
  rcases seek_cases hsearch with ⟨hnone, hseek⟩ | ⟨front, back, hfront, hwhole, hseek⟩
  · refine .inl ⟨hpending ▸ hnone, ?_⟩
    simp only [feedRound, if_neg hle, hseek, hpending, horphan]
  · rw [hpending] at hwhole
    refine .inr ⟨front, back, hfront, hwhole, ?_⟩
    rw [hwhole] at hle
    simp only [feedRound, if_neg hle, hseek, hpending, horphan, hwhole,
      List.take_length_add_append, List.drop_length_add_append]
    rfl

/-! ### All rounds of a chunk -/

/-- What all lines of the bytes that are held come to. -/
def gathered (a : Assembler) (frames : List Frame) : Assembler × List Frame :=
  let g := (cutLines a.pending).1.foldl Gathering.add ⟨a.orphan, frames⟩
  (⟨(cutLines a.pending).2, (cutLines a.pending).2.length, g.orphan⟩, g.frames.reverse)

theorem feed_eq_gathered (h : a.IsScanned) (chunk : Bytes) :
    a.feed chunk = (a.buffer chunk).gathered [] := by
  rw [feed, cut_eq h]
  rfl

/-- The rounds end, with all lines gathered. -/
theorem ends_gathered (h : a.HidesNone) (fresh : Bool) (frames : List Frame) :
    Loop.Ends (feedRound fresh) (a, frames) (a.gathered frames) := by
  induction hlength : a.pending.length using Nat.strong_induction_on generalizing a frames with
  | _ n ih =>
    rcases feedRound_cases h fresh frames with
      ⟨hnone, hround⟩ | ⟨front, back, hfront, hwhole, hround⟩
    · have hall : a.gathered frames = ({ a with scanned := a.pending.length }, frames.reverse) := by
        rw [gathered, cutLines_of_not_mem hnone]
        rfl
      rw [hall]
      exact .done hround
    · have hshorter : back.length < n := by
        rw [← hlength, hwhole, List.length_append, List.length_cons]
        omega
      let g := Gathering.add ⟨a.orphan, frames⟩ (front ++ [lineFeed])
      have hrest : Loop.Ends (feedRound fresh) (⟨back, 0, g.orphan⟩, g.frames)
          (gathered ⟨back, 0, g.orphan⟩ g.frames) :=
        ih back.length hshorter (hidesNone_of_scanned_eq_zero rfl) g.frames rfl
      have hall : a.gathered frames = gathered ⟨back, 0, g.orphan⟩ g.frames := by
        rw [gathered, hwhole, cutLines_append_cons hfront, List.foldl_cons]
        rfl
      rw [hall]
      exact .again hround hrest

/-- The rounds of a chunk end with what feeding it says. -/
theorem ends_feedRound (h : a.IsScanned) (fresh : Bool) (chunk : Bytes) :
    Loop.Ends (feedRound fresh) (a.buffer chunk, []) (a.feed chunk) := by
  rw [feed_eq_gathered h]
  exact ends_gathered (h.hidesNone chunk) fresh []

/-! ### Uses -/

/-- Uses one after the other, with what each hands out. Chunks are fed in rounds. -/
inductive Performs (fresh : Bool) : Assembler → List Use → Assembler × List Output → Prop where
  | nil (a : Assembler) : Performs fresh a [] (a, [])
  | feed {a b c : Assembler} {chunk : Bytes} {frames : List Frame} {uses : List Use}
      {outputs : List Output} (now : Loop.Ends (feedRound fresh) (a.buffer chunk, []) (b, frames))
      (later : Performs fresh b uses (c, outputs)) :
      Performs fresh a (.feed chunk :: uses) (c, ⟨frames, []⟩ :: outputs)
  | finish {a c : Assembler} {uses : List Use} {outputs : List Output}
      (later : Performs fresh a.finish.1 uses (c, outputs)) :
      Performs fresh a (.finish :: uses)
        (c, ⟨a.finish.2.frame.toList, a.finish.2.trailing⟩ :: outputs)

theorem Performs.unique {uses : List Use} {result result' : Assembler × List Output}
    (h : Performs fresh a uses result) (h' : Performs fresh a uses result') :
    result = result' := by
  induction h generalizing result' with
  | nil a => cases h'; rfl
  | feed now _ ih =>
    cases h' with
    | feed now' later' =>
      cases now.unique now'
      cases ih later'
      rfl
  | finish _ ih =>
    cases h' with
    | finish later' =>
      cases ih later'
      rfl

theorem isScanned_use (h : a.IsScanned) (u : Use) : (a.use u).1.IsScanned := by
  cases u with
  | feed chunk => exact isScanned_feed h chunk
  | finish =>
    rw [use, finish_fst]
    exact isScanned_empty

theorem performs_useAll (h : a.IsScanned) (fresh : Bool) (uses : List Use) :
    Performs fresh a uses (a.useAll uses) := by
  induction uses generalizing a with
  | nil => exact .nil a
  | cons u uses ih =>
    have hlater := ih (isScanned_use h u)
    cases u with
    | feed chunk => exact .feed (ends_feedRound h fresh chunk) hlater
    | finish => exact .finish hlater

theorem useAll_append_singleton_fst (a : Assembler) (uses : List Use) (u : Use) :
    (a.useAll (uses ++ [u])).1 = ((a.useAll uses).1.use u).1 := by
  induction uses generalizing a with
  | nil => rfl
  | cons v uses ih => exact ih (a.use v).1

theorem IsClean.useAll (h : a.IsClean) (uses : List Use) : (a.useAll uses).1.IsClean := by
  induction uses generalizing a with
  | nil => exact h
  | cons u uses ih => exact ih (h.use u).2

/-- What an assembler is after some uses, and what they have handed out. -/
structure ScansAll (uses : List Use) : Prop where
  /-- What counts as searched is there and holds no line feed. -/
  hidesNone : (empty.useAll uses).1.HidesNone
  /-- After a chunk everything that is held as a line counts as searched. -/
  fed : ∀ before chunk, uses = before ++ [.feed chunk] →
    (empty.useAll uses).1.scanned = (empty.useAll uses).1.pending.length
  /-- After the end nothing is held, and nothing counts as searched. -/
  finished : ∀ before, uses = before ++ [.finish] → (empty.useAll uses).1 = ⟨[], 0, []⟩
  /-- Only complete blank lines wait. -/
  orphan : IsBlankLines (empty.useAll uses).1.orphan
  /-- Each use hands out and keeps what rounds say, those that search on as well as those that
  search everything each time; and they say nothing else. -/
  performs : ∀ fresh result, Performs fresh empty uses result ↔ result = empty.useAll uses

/-- After any uses no line feed is hidden, and they have handed out what they would have handed out
if everything were searched each time. -/
theorem scansAll_useAll (uses : List Use) : ScansAll uses := by
  have hclean := isClean_empty.useAll uses
  obtain ⟨⟨hle, hpending⟩, horphan⟩ := hclean
  constructor
  case hidesNone => exact ⟨hle, fun hmem => hpending (List.mem_of_mem_take hmem)⟩
  case fed =>
    rintro before chunk rfl
    rw [useAll_append_singleton_fst]
    rfl
  case finished =>
    rintro before rfl
    rw [useAll_append_singleton_fst, use, finish_fst]
    rfl
  case orphan => exact horphan
  case performs =>
    intro fresh result
    have hperforms := performs_useAll isScanned_empty fresh uses
    exact ⟨fun h => h.unique hperforms, fun heq => heq ▸ hperforms⟩

example : (empty.useAll [.feed (Utf8.ofText "a"), .feed (Utf8.ofText "b\n\n"),
    .feed (Utf8.ofText "\nc")]).1 = ⟨Utf8.ofText "c", 1, Utf8.ofText "\n"⟩ := by decide +kernel

end Assembler

end ModerationGateway.Stream
