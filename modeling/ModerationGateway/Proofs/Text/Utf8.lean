import ModerationGateway.Text.Utf8

/-!
# Encoding and decoding

What was encoded is decoded again, character by character, and what follows is read as if it stood
alone. A byte of an encoded text is no smaller than the character that it belongs to, as long as
ASCII can tell.

* `lead_one`, `lead_two`, `lead_three`, `lead_four`: what the first byte of a character does;
* `resume_tail`, `scanFrom_next`, `scanFrom_last`: what a byte inside a character does;
* `scan_utf8EncodeChar`, `scan_encode`, `decodeLossy_encode`, `decode?_encode`: what was encoded is
  decoded again;
* `text?_of_ascii`: bytes that are characters each;
* `le_toNat_of_mem_encode`: how small the bytes of a text can be.
-/

namespace ModerationGateway.Utf8

/-! ### One byte -/

theorem lead_one {n : Nat} (h : n < 0x80) : lead (UInt8.ofNat n) = .single (Char.ofNat n) := by
  have hbyte : (UInt8.ofNat n).toNat = n := by
    rw [UInt8.toNat_ofNat']
    omega
  simp [lead, hbyte, h]

theorem lead_two {n : Nat} (hlow : 2 ≤ n) (hhigh : n < 0x20) :
    lead (UInt8.ofNat (n + 0xC0)) = .opens ⟨0x80, 0xBF, 0, n⟩ := by
  have all : ∀ m : Fin 0x20, 2 ≤ m.val →
      lead (UInt8.ofNat (m.val + 0xC0)) = .opens ⟨0x80, 0xBF, 0, m.val⟩ := by decide
  exact all ⟨n, hhigh⟩ hlow

/-- The second of three bytes is bounded below where the character would be too short, and above
where it would be a surrogate. -/
theorem lead_three {n : Nat} (h : n < 0x10) :
    lead (UInt8.ofNat (n + 0xE0)) =
      .opens ⟨if n = 0 then 0xA0 else 0x80, if n = 13 then 0x9F else 0xBF, 1, n⟩ := by
  have all : ∀ m : Fin 0x10, lead (UInt8.ofNat (m.val + 0xE0)) =
      .opens ⟨if m.val = 0 then 0xA0 else 0x80, if m.val = 13 then 0x9F else 0xBF, 1, m.val⟩ := by
    decide
  exact all ⟨n, h⟩

/-- The second of four bytes is bounded below where the character would be too short, and above
where there is none. -/
theorem lead_four {n : Nat} (h : n < 5) :
    lead (UInt8.ofNat (n + 0xF0)) =
      .opens ⟨if n = 0 then 0x90 else 0x80, if n = 4 then 0x8F else 0xBF, 2, n⟩ := by
  have all : ∀ m : Fin 5, lead (UInt8.ofNat (m.val + 0xF0)) =
      .opens ⟨if m.val = 0 then 0x90 else 0x80, if m.val = 4 then 0x8F else 0xBF, 2, m.val⟩ := by
    decide
  exact all ⟨n, h⟩

theorem scan_of_single {b : UInt8} {c : Char} (h : lead b = .single c) (bs : Bytes) :
    scan (b :: bs) = some c :: scan bs := by
  simp [scan, scanFrom, step, start, h]

theorem scan_of_opens {b : UInt8} {p : Pending} (h : lead b = .opens p) (bs : Bytes) :
    scan (b :: bs) = scanFrom (some p) bs := by
  simp [scan, scanFrom, step, start, h]

/-- A byte that fits goes into the bits of the character. -/
theorem resume_tail {low high : UInt8} {more bits n : Nat} (hn : n < 64)
    (hlow : low.toNat ≤ n + 0x80) (hhigh : n + 0x80 ≤ high.toNat) :
    resume ⟨low, high, more, bits⟩ (UInt8.ofNat (n + 0x80)) =
      match more with
      | 0 => ([some (Char.ofNat (bits * 64 + n))], none)
      | more + 1 => ([], some ⟨0x80, 0xBF, more, bits * 64 + n⟩) := by
  have hbyte : (UInt8.ofNat (n + 0x80)).toNat = n + 0x80 := by
    rw [UInt8.toNat_ofNat']
    omega
  have hfits : low ≤ UInt8.ofNat (n + 0x80) ∧ UInt8.ofNat (n + 0x80) ≤ high := by
    rw [UInt8.le_iff_toNat_le, UInt8.le_iff_toNat_le, hbyte]
    exact ⟨hlow, hhigh⟩
  have hbits : (UInt8.ofNat (n + 0x80)).toNat - 0x80 = n := by omega
  cases more <;> simp only [resume, if_pos hfits, hbits]

/-- A byte inside a character that is not its last one. -/
theorem scanFrom_next {low high : UInt8} {more bits n : Nat} (hn : n < 64)
    (hlow : low.toNat ≤ n + 0x80) (hhigh : n + 0x80 ≤ high.toNat) (bs : Bytes) :
    scanFrom (some ⟨low, high, more + 1, bits⟩) (UInt8.ofNat (n + 0x80) :: bs) =
      scanFrom (some ⟨0x80, 0xBF, more, bits * 64 + n⟩) bs := by
  rw [scanFrom, step, resume_tail hn hlow hhigh]
  rfl

/-- The last byte of a character. -/
theorem scanFrom_last {bits n : Nat} (hn : n < 64) (bs : Bytes) :
    scanFrom (some ⟨0x80, 0xBF, 0, bits⟩) (UInt8.ofNat (n + 0x80) :: bs) =
      some (Char.ofNat (bits * 64 + n)) :: scan bs := by
  rw [scanFrom, step, resume_tail hn (by simp) (by simp; omega)]
  rfl

/-! ### Characters -/

/-- The bytes of a character are read as that character. -/
theorem scan_utf8EncodeChar (c : Char) (bs : Bytes) :
    scan (String.utf8EncodeChar c ++ bs) = some c :: scan bs := by
  obtain ⟨n, hn⟩ : ∃ n, n = c.val.toNat := ⟨_, rfl⟩
  have hc : Char.ofNat n = c := hn ▸ Char.ofNat_toNat c
  have hvalid : n < 0xD800 ∨ 0xDFFF < n ∧ n < 0x110000 := hn ▸ c.valid
  -- one case for each number of bytes
  unfold String.utf8EncodeChar
  simp only [← hn]
  split
  · rw [List.singleton_append, scan_of_single (lead_one (by omega)), hc]
  split
  · have hbits : n / 64 % 32 * 64 + n % 64 = n := by omega
    rw [List.cons_append, List.singleton_append, scan_of_opens (lead_two (by omega) (by omega)),
      scanFrom_last (by omega), hbits, hc]
  split
  · have hbits : (n / 4096 % 16 * 64 + n / 64 % 64) * 64 + n % 64 = n := by omega
    rw [List.cons_append, List.cons_append, List.singleton_append,
      scan_of_opens (lead_three (by omega)),
      scanFrom_next (by omega) (by split <;> simp; omega) (by split <;> simp <;> omega),
      scanFrom_last (by omega), hbits, hc]
  · have hbits : ((n / 262144 % 8 * 64 + n / 4096 % 64) * 64 + n / 64 % 64) * 64 + n % 64 = n := by
      omega
    rw [List.cons_append, List.cons_append, List.cons_append, List.singleton_append,
      scan_of_opens (lead_four (by omega)),
      scanFrom_next (by omega) (by split <;> simp; omega) (by split <;> simp <;> omega),
      scanFrom_next (by omega) (by simp) (by simp; omega), scanFrom_last (by omega), hbits, hc]

theorem scan_encode (cs : List Char) (bs : Bytes) :
    scan (encode cs ++ bs) = cs.map some ++ scan bs := by
  induction cs with
  | nil => rfl
  | cons c cs ih =>
    rw [encode_cons, List.append_assoc, scan_utf8EncodeChar, ih]
    rfl

/-- What was encoded is decoded again. -/
theorem decodeLossy_encode (cs : List Char) : decodeLossy (encode cs) = cs := by
  have hscan := scan_encode cs []
  rw [List.append_nil, scan_nil, List.append_nil] at hscan
  rw [decodeLossy, hscan, List.map_map]
  exact List.map_id cs

theorem sequence_map_some (cs : List Char) : sequence (cs.map some) = some cs := by
  induction cs with
  | nil => rfl
  | cons c cs ih => rw [List.map_cons, sequence, ih, Option.map_some]

/-- What was encoded is well-formed. -/
theorem decode?_encode (cs : List Char) : decode? (encode cs) = some cs := by
  have hscan := scan_encode cs []
  rw [List.append_nil, scan_nil, List.append_nil] at hscan
  rw [decode?, hscan, sequence_map_some]

/-! ### Small bytes -/

/-- Text in ASCII is read byte by byte. -/
theorem text?_of_ascii {bs : Bytes} (h : ∀ b ∈ bs, b < 0x80) :
    text? bs = some (String.ofList (bs.map fun b => Char.ofNat b.toNat)) := by
  have hscan : scan bs = (bs.map fun b => Char.ofNat b.toNat).map some := by
    induction bs with
    | nil => rfl
    | cons b bs ih =>
      have hlead : lead b = .single (Char.ofNat b.toNat) := by
        have hb : b.toNat < 0x80 := UInt8.lt_iff_toNat_lt.1 (h b List.mem_cons_self)
        simpa using lead_one hb
      rw [scan_of_single hlead, ih fun b hb => h b (List.mem_cons_of_mem _ hb)]
      rfl
  rw [text?, decode?, hscan, sequence_map_some, Option.map_some]

theorem le_toNat_of_mem_utf8EncodeChar {c : Char} {n : Nat} (hn : n ≤ 0x80) (hc : n ≤ c.toNat)
    {b : UInt8} (h : b ∈ String.utf8EncodeChar c) : n ≤ b.toNat := by
  have hvalue : c.toNat = c.val.toNat := rfl
  unfold String.utf8EncodeChar at h
  dsimp only at h
  split at h
  · obtain rfl := List.mem_singleton.1 h
    rw [UInt8.toNat_ofNat']
    omega
  -- every byte of a longer character is beyond ASCII
  split at h
  · simp only [List.mem_cons, List.not_mem_nil, or_false] at h
    rcases h with rfl | rfl <;> rw [UInt8.toNat_ofNat'] <;> omega
  split at h
  · simp only [List.mem_cons, List.not_mem_nil, or_false] at h
    rcases h with rfl | rfl | rfl <;> rw [UInt8.toNat_ofNat'] <;> omega
  · simp only [List.mem_cons, List.not_mem_nil, or_false] at h
    rcases h with rfl | rfl | rfl | rfl <;> rw [UInt8.toNat_ofNat'] <;> omega

/-- A bound for all characters of a text holds for its bytes as well, as far as ASCII goes. -/
theorem le_toNat_of_mem_encode {cs : List Char} {n : Nat} (hn : n ≤ 0x80)
    (hcs : ∀ c ∈ cs, n ≤ c.toNat) {b : UInt8} (h : b ∈ encode cs) : n ≤ b.toNat := by
  obtain ⟨c, hc, hb⟩ := List.mem_flatMap.1 h
  exact le_toNat_of_mem_utf8EncodeChar hn (hcs c hc) hb

end ModerationGateway.Utf8
