import ModerationGateway.Text.Utf8

/-!
# Where characters begin

A text that is held as bytes is cut in front of a character by its number: the first bytes of
characters are counted, and they differ from all others.

* `charStart`: where the character with a number begins, as the bytes tell;
* `IsBoundary`: a place where bytes are cut without a character being split;
* `charStart_encode`: the characters in front of that place are so many;
* `drop_charStart_encode`, `isBoundary_charStart_encode`: what stands behind it is the rest of the
  text, and no character is split.
-/

namespace ModerationGateway.Utf8

/-- Where the character with a number begins, counted from zero, or where the bytes end if there
are not so many. -/
def charStart : Bytes → Nat → Nat
  | [], _ => 0
  | b :: bs, n =>
    if b.IsUTF8FirstByte then
      if n = 0 then 0 else charStart bs (n - 1) + 1
    else charStart bs n + 1

/-- No character is split if the bytes are cut here. -/
def IsBoundary (bs : Bytes) (i : Nat) : Prop :=
  i = bs.length ∨ ∃ b, bs[i]? = some b ∧ b.IsUTF8FirstByte

/-- Bytes inside a character are passed over. -/
theorem charStart_append_of_forall_not {inner : Bytes} (h : ∀ b ∈ inner, ¬ b.IsUTF8FirstByte)
    (bs : Bytes) (n : Nat) : charStart (inner ++ bs) n = inner.length + charStart bs n := by
  induction inner with
  | nil => simp
  | cons b inner ih =>
    rw [List.forall_mem_cons] at h
    rw [List.cons_append, charStart, if_neg h.1, ih h.2, List.length_cons]
    omega

/-- A character has one first byte, and it stands in front. -/
theorem exists_utf8EncodeChar_eq_cons (c : Char) :
    ∃ b inner, String.utf8EncodeChar c = b :: inner ∧ b.IsUTF8FirstByte ∧
      ∀ b ∈ inner, ¬ b.IsUTF8FirstByte := by
  have hfirst (i : Nat) (hi : i < (String.utf8EncodeChar c).length) :
      (String.utf8EncodeChar c)[i].IsUTF8FirstByte ↔ i = 0 :=
    UInt8.isUTF8FirstByte_getElem_utf8EncodeChar
  cases hbytes : String.utf8EncodeChar c with
  | nil =>
    have hpos := c.utf8Size_pos
    rw [← String.length_utf8EncodeChar, hbytes] at hpos
    contradiction
  | cons b inner =>
    simp only [hbytes] at hfirst
    refine ⟨b, inner, rfl, (hfirst 0 (by simp)).2 rfl, fun b' hb' => ?_⟩
    obtain ⟨i, hi, rfl⟩ := List.getElem_of_mem hb'
    have hinner := hfirst (i + 1) (by simpa using hi)
    simpa using hinner

/-- A character is counted once. -/
theorem charStart_utf8EncodeChar (c : Char) (bs : Bytes) :
    charStart (String.utf8EncodeChar c ++ bs) 0 = 0 ∧
      ∀ n, charStart (String.utf8EncodeChar c ++ bs) (n + 1) =
        (String.utf8EncodeChar c).length + charStart bs n := by
  obtain ⟨b, inner, hbytes, hb, hinner⟩ := exists_utf8EncodeChar_eq_cons c
  simp only [hbytes, List.cons_append, charStart, if_pos hb]
  refine ⟨rfl, fun n => ?_⟩
  rw [if_neg (Nat.succ_ne_zero n), Nat.add_sub_cancel, charStart_append_of_forall_not hinner,
    List.length_cons]
  omega

/-- The characters in front of the place are so many. -/
theorem charStart_encode (cs : List Char) (n : Nat) :
    charStart (encode cs) n = (encode (cs.take n)).length := by
  induction cs generalizing n with
  | nil => simp [charStart]
  | cons c cs ih =>
    rw [encode_cons]
    cases n with
    | zero => simpa using (charStart_utf8EncodeChar c (encode cs)).1
    | succ n =>
      rw [(charStart_utf8EncodeChar c (encode cs)).2, ih, List.take_succ_cons, encode_cons,
        List.length_append]

/-- What stands behind the place is the rest of the text. -/
theorem drop_charStart_encode (cs : List Char) (n : Nat) :
    (encode cs).drop (charStart (encode cs) n) = encode (cs.drop n) := by
  have hsplit : encode cs = encode (cs.take n) ++ encode (cs.drop n) := by
    rw [← encode_append, List.take_append_drop]
  rw [charStart_encode, hsplit]
  exact List.drop_left

/-- No character is split there. -/
theorem isBoundary_charStart_encode (cs : List Char) (n : Nat) :
    IsBoundary (encode cs) (charStart (encode cs) n) := by
  have hrest := drop_charStart_encode cs n
  cases hcs : cs.drop n with
  | nil =>
    left
    rw [charStart_encode, List.take_of_length_le (List.drop_eq_nil_iff.1 hcs)]
  | cons c rest =>
    right
    obtain ⟨b, inner, hbytes, hb, -⟩ := exists_utf8EncodeChar_eq_cons c
    rw [hcs, encode_cons, hbytes] at hrest
    refine ⟨b, ?_, hb⟩
    rw [← List.head?_drop, hrest]
    rfl

end ModerationGateway.Utf8
