import ModerationGateway.Proofs.Stream.Blanks

/-!
# Ends of lines

Bytes that end with a line feed, or are none at all, leave no line open: what is written behind them
begins a line of its own.

* `EndsLine`, `endsLine_iff`: no line is left open;
* `EndsLine.append`, `endsLine_flatten`: pieces that leave none open, put together;
* `cutLines_append_snd`, `getLast?_splitOn_append`: a line behind other bytes;
* `Assembler.isSome_frame_finish`: when the unterminated line has a frame.
-/

namespace ModerationGateway.Stream

/-- There is no open line at the end. -/
def EndsLine (bs : Bytes) : Prop := bs = [] ∨ bs.getLast? = some lineFeed

instance (bs : Bytes) : Decidable (EndsLine bs) := inferInstanceAs (Decidable (_ ∨ _))

variable {xs ys bs : Bytes}

theorem endsLine_nil : EndsLine [] := .inl rfl

theorem EndsLine.append (hxs : EndsLine xs) (hys : EndsLine ys) : EndsLine (xs ++ ys) := by
  rcases hys with rfl | hys
  · rwa [List.append_nil]
  · exact .inr (by rw [List.getLast?_append, hys, Option.some_or])

theorem endsLine_flatten {pieces : List Bytes} (h : ∀ piece ∈ pieces, EndsLine piece) :
    EndsLine pieces.flatten := by
  induction pieces with
  | nil => exact endsLine_nil
  | cons piece pieces ih =>
    rw [List.forall_mem_cons] at h
    exact h.1.append (ih h.2)

/-- The rest behind the last line feed is the open line. -/
theorem endsLine_iff (bs : Bytes) : EndsLine bs ↔ (cutLines bs).2 = [] := by
  have hcut := cutLines_flatten bs
  constructor
  · rintro (rfl | hlast)
    · rfl
    · -- the last byte would be in the rest, which holds no line feed
      by_contra hrest
      rw [← hcut, List.getLast?_append_of_ne_nil _ hrest] at hlast
      exact lineFeed_not_mem_cutLines bs (List.mem_of_getLast? hlast)
  · intro hrest
    rw [hrest, List.append_nil] at hcut
    rw [← hcut]
    exact endsLine_flatten fun line hline => .inr (getLast?_of_mem_cutLines hline)

/-- A line without its line feed is added to the line that is open. -/
theorem cutLines_append_snd (xs : Bytes) (h : lineFeed ∉ ys) :
    (cutLines (xs ++ ys)).2 = (cutLines xs).2 ++ ys := by
  have hopen : lineFeed ∉ (cutLines xs).2 ++ ys := by
    rw [List.mem_append, not_or]
    exact ⟨lineFeed_not_mem_cutLines xs, h⟩
  rw [cutLines_append, cutLines_of_not_mem hopen]

/-- A line behind other bytes is a line of its own exactly if these leave none open. -/
theorem getLast?_splitOn_append (xs : Bytes) (h : lineFeed ∉ ys) :
    ((xs ++ ys).splitOn lineFeed).getLast? = some ys ↔ EndsLine xs := by
  rw [splitOn_lineFeed, List.getLast?_concat, cutLines_append_snd xs h, Option.some_inj,
    List.append_left_eq_self, endsLine_iff]

namespace Assembler

/-- The unterminated line at the end of a stream has a frame unless it is blank. -/
theorem isSome_frame_finish (chunks : List Bytes) :
    ((empty.feedAll chunks).1.finish.2.frame).isSome =
      (lineText? (cutLines chunks.flatten).2).isSome := by
  have hpending : (empty.feedAll chunks).1.pending = (cutLines chunks.flatten).2 :=
    (feedAll_spec isScanned_empty chunks).2.1
  have htexts := congrArg List.length (texts_finish (empty.feedAll chunks).1)
  rw [hpending, List.length_map] at htexts
  cases hframe : (empty.feedAll chunks).1.finish.2.frame <;>
    cases htext : lineText? (cutLines chunks.flatten).2 <;> simp [hframe, htext] at htexts ⊢

end Assembler

end ModerationGateway.Stream
