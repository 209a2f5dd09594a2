import ModerationGateway.Json.Reader
import ModerationGateway.Json.Writer

/-!
# Strings and integers, written and read

What is written for a string or for an integer is read as it, whatever stands behind; and none of
it is a control character.

* `escape_cases`, `readString_escape`: how a character of a string is written, and read again;
* `readString_flatMap_escape`: a whole string;
* `EndsNumeral`: what may stand behind a numeral;
* `takeDigits_append`, `readNumber_signedDecimal`: digits, and a whole integer;
* `InRange`: the integers that are kept exactly;
* `IsVisible`, `isVisible_quoted`, `isVisible_signedDecimal`: no control characters.
-/

namespace ModerationGateway.Json

/-! ### Texts without control characters -/

/-- A text without control characters. -/
def IsVisible (cs : List Char) : Prop := ∀ c ∈ cs, 0x20 ≤ c.toNat

instance (cs : List Char) : Decidable (IsVisible cs) := List.decidableBAll _ cs

theorem IsVisible.cons {c : Char} {cs : List Char} (hc : 0x20 ≤ c.toNat) (hcs : IsVisible cs) :
    IsVisible (c :: cs) :=
  List.forall_mem_cons.2 ⟨hc, hcs⟩

theorem IsVisible.append {cs ds : List Char} (hcs : IsVisible cs) (hds : IsVisible ds) :
    IsVisible (cs ++ ds) :=
  List.forall_mem_append.2 ⟨hcs, hds⟩

/-! ### Strings -/

/-- A character stands for itself, has a short escape, or is written by its number. -/
theorem escape_cases (c : Char) :
    (escape c = [c] ∧ c ≠ '"' ∧ c ≠ '\\' ∧ 0x20 ≤ c.toNat) ∨
      (∃ d, escape c = ['\\', d] ∧ ofEscape? d = some c ∧ d ≠ 'u' ∧ 0x20 ≤ d.toNat) ∨
      (escape c = ['\\', 'u', '0', '0', hexDigit (c.toNat / 16), hexDigit c.toNat] ∧
        c.toNat < 0x20) := by
  by_cases hshort : c ∈ ['"', '\\', '\x08', '\t', '\n', '\x0c', '\r']
  · refine .inr (.inl ?_)
    simp only [List.mem_cons, List.not_mem_nil, or_false] at hshort
    rcases hshort with rfl | rfl | rfl | rfl | rfl | rfl | rfl <;> exact ⟨_, rfl, by decide⟩
  · simp only [List.mem_cons, List.not_mem_nil, or_false, not_or] at hshort
    obtain ⟨hquote, hslash, hb, ht, hn, hf, hr⟩ := hshort
    rw [escape, if_neg hquote, if_neg hslash, if_neg hb, if_neg ht, if_neg hn, if_neg hf, if_neg hr]
    by_cases hcontrol : c.toNat < 0x20
    · exact .inr (.inr ⟨if_pos hcontrol, hcontrol⟩)
    · exact .inl ⟨if_neg hcontrol, hquote, hslash, Nat.le_of_not_lt hcontrol⟩

/-- A control character without a short escape is written by its number. -/
theorem readString_unicode {c : Char} (h : c.toNat < 0x20) (tail : List Char) :
    readString ('\\' :: 'u' :: '0' :: '0' :: hexDigit (c.toNat / 16) :: hexDigit c.toNat :: tail) =
      prepend c (readString tail) := by
  have hzero : hexDigit? '0' = some 0 := by decide
  have hhigh := hexDigit?_hexDigit (n := c.toNat / 16) (by omega)
  have hlow : hexDigit? (hexDigit c.toNat) = some (c.toNat % 16) := by
    have hdigit := hexDigit?_hexDigit (n := c.toNat % 16) (by omega)
    rwa [hexDigit, Nat.mod_mod, ← hexDigit] at hdigit
  have hnumber : hex4? '0' '0' (hexDigit (c.toNat / 16)) (hexDigit c.toNat) = some c.toNat := by
    simp [hex4?, hzero, hhigh, hlow]
    omega
  have hno : ¬(0xD800 ≤ c.toNat ∧ c.toNat < 0xE000) := by omega
  have hunit : ofUnit? c.toNat = some c := by rw [ofUnit?, if_neg hno, Char.ofNat_toNat]
  simp [readString, hnumber, hunit]

/-- A character that is neither the quote nor the backslash nor a control character stands for
itself. -/
theorem readString_of_visible {c : Char} (hquote : c ≠ '"') (hslash : c ≠ '\\')
    (hvisible : 0x20 ≤ c.toNat) (tail : List Char) :
    readString (c :: tail) = prepend c (readString tail) := by
  rw [readString, if_neg (not_or.2 ⟨hslash, Nat.not_lt.2 hvisible⟩)]
  · exact hquote
  · exact fun _ _ _ _ _ hc _ => hslash hc
  · exact fun _ _ hc _ => hslash hc

/-- What is written for a character of a string is read as it. -/
theorem readString_escape (c : Char) (tail : List Char) :
    readString (escape c ++ tail) = prepend c (readString tail) := by
  rcases escape_cases c with ⟨h, hquote, hslash, hvisible⟩ | ⟨d, h, hd, hu, -⟩ | ⟨h, hcontrol⟩
  · rw [h, List.singleton_append, readString_of_visible hquote hslash hvisible]
  · rw [h, List.cons_append, List.singleton_append, readString]
    · rw [hd]
    · exact fun _ _ _ _ _ hd _ => hu hd
  · rw [h]
    exact readString_unicode hcontrol tail

/-- What is written for the characters of a string is read up to the closing quote. -/
theorem readString_flatMap_escape (cs tail : List Char) :
    readString (cs.flatMap escape ++ '"' :: tail) = some (cs, tail) := by
  induction cs with
  | nil => rfl
  | cons c cs ih =>
    rw [List.flatMap_cons, List.append_assoc, readString_escape, ih]
    rfl

theorem isVisible_escape (c : Char) : IsVisible (escape c) := by
  have hhex (n : Nat) : 0x20 ≤ (hexDigit n).toNat := by
    have all : ∀ m : Fin 16, 0x20 ≤ (Nat.digitChar m.val).toNat := by decide
    exact all ⟨n % 16, by omega⟩
  have hcode (n m : Nat) : IsVisible [hexDigit n, hexDigit m] :=
    .cons (hhex n) (.cons (hhex m) (by decide))
  rcases escape_cases c with ⟨h, -, -, hc⟩ | ⟨d, h, -, -, hd⟩ | ⟨h, -⟩
  · exact h ▸ .cons hc (by decide)
  · exact h ▸ .cons (by decide) (.cons hd (by decide))
  · have hescape : IsVisible ['\\', 'u', '0', '0'] := by decide
    exact h ▸ hescape.append (hcode _ _)

theorem isVisible_quoted (s : String) : IsVisible (quoted s) := by
  have hbody : IsVisible (s.toList.flatMap escape) := by
    intro c hc
    obtain ⟨d, -, h⟩ := List.mem_flatMap.1 hc
    exact isVisible_escape d c h
  exact (hbody.cons (by decide)).append (by decide)

/-! ### Integers -/

/-- The integers that are kept exactly: those of sixty-four bits, with a sign or without. -/
def InRange (i : Int) : Prop := -0x8000000000000000 ≤ i ∧ i ≤ 0xFFFFFFFFFFFFFFFF

/-- What stands behind a numeral does not go on with it. -/
def EndsNumeral (rest : List Char) : Prop :=
  ∀ c ∈ rest.head?, digit? c = none ∧ c ≠ '.' ∧ c ≠ 'e' ∧ c ≠ 'E'

theorem digit?_of_isDigit {c : Char} (h : c.isDigit = true) :
    digit? c = some (c.toNat - '0'.toNat) := by
  rw [Char.isDigit_iff_toNat] at h
  rw [digit?, if_pos]
  rw [Char.le_def, Char.le_def, UInt32.le_iff_toNat_le, UInt32.le_iff_toNat_le]
  exact h

theorem EndsNumeral.startsWithDigit {rest : List Char} (h : EndsNumeral rest) :
    startsWithDigit rest = false := by
  cases rest with
  | nil => rfl
  | cons c cs => simp [Json.startsWithDigit, (h c (by simp)).1]

/-- A decimal is a digit and more digits, and begins with a zero only if it is the zero. -/
theorem exists_toDigits_eq_cons (n : Nat) : ∃ c cs, Nat.toDigits 10 n = c :: cs ∧
    (∀ d ∈ c :: cs, d.isDigit = true) ∧ (0 < n → c ≠ '0') := by
  obtain ⟨c, cs, hcs⟩ := List.exists_cons_of_ne_nil (Nat.toDigits_ne_nil (n := n) (b := 10))
  refine ⟨c, cs, hcs, fun d hd => ?_, ?_⟩
  · exact Nat.isDigit_of_mem_toDigits (by decide) (by decide) (hcs ▸ hd)
  · induction n using Nat.strongRecOn generalizing c cs with
    | ind n ih =>
      intro hpos
      rw [Nat.toDigits_eq_if (by decide)] at hcs
      split at hcs
      next hlt =>
        have all : ∀ m : Fin 10, 0 < m.val → m.val.digitChar ≠ '0' := by decide
        rw [← (List.cons.inj hcs).1]
        exact all ⟨n, hlt⟩ hpos
      next hge =>
        -- the first digit is that of the number without its last one
        obtain ⟨b, bs, hbs⟩ :=
          List.exists_cons_of_ne_nil (Nat.toDigits_ne_nil (n := n / 10) (b := 10))
        rw [hbs, List.cons_append] at hcs
        rw [← (List.cons.inj hcs).1]
        exact ih (n / 10) (by omega) b bs hbs (by omega)

theorem le_ofDigitChars (cs : List Char) (n : Nat) : n ≤ Nat.ofDigitChars 10 cs n := by
  induction cs generalizing n with
  | nil => exact Nat.le_refl n
  | cons c cs ih =>
    have h := ih (10 * n + (c.toNat - '0'.toNat))
    rw [Nat.ofDigitChars_cons]
    omega

/-- Digits go into the significand as long as it stays in bounds. -/
theorem takeDigits_append {cs rest : List Char} (hdigits : ∀ c ∈ cs, c.isDigit = true)
    (hrest : EndsNumeral rest) {n : Nat} (hbound : Nat.ofDigitChars 10 cs n ≤ maxSignificand)
    (count : Nat) :
    takeDigits n count (cs ++ rest) = (Nat.ofDigitChars 10 cs n, count + cs.length, rest) := by
  induction cs generalizing n count with
  | nil =>
    cases rest with
    | nil => rfl
    | cons c cs => simp [takeDigits, (hrest c (by simp)).1]
  | cons c cs ih =>
    have hc := digit?_of_isDigit (hdigits c (by simp))
    rw [Nat.ofDigitChars_cons] at hbound
    have hle := le_ofDigitChars cs (10 * n + (c.toNat - '0'.toNat))
    have hfits : n * 10 + (c.toNat - '0'.toNat) ≤ maxSignificand := by omega
    rw [List.cons_append, takeDigits, hc]
    dsimp only
    rw [if_pos hfits, Nat.mul_comm n 10, ih (fun d hd => hdigits d (by simp [hd])) hbound,
      Nat.ofDigitChars_cons, List.length_cons, Nat.add_assoc, Nat.add_comm 1]

/-- A significand with a sign is an integer if sixty-four bits hold it. -/
theorem finishNumber_of_endsNumeral {negative : Bool} {n : Nat} {rest : List Char}
    (hrest : EndsNumeral rest) (hsign : negative = true → 0 < n ∧ n ≤ 0x8000000000000000) :
    finishNumber negative n rest = some (.integer (if negative then -(n : Int) else n), rest) := by
  rw [finishNumber.eq_def]
  split
  next => simp [EndsNumeral] at hrest
  next => simp [EndsNumeral] at hrest
  next => simp [EndsNumeral] at hrest
  next =>
    rw [hrest.startsWithDigit]
    cases negative with
    | false => rfl
    | true =>
      obtain ⟨hpos, hle⟩ := hsign rfl
      have hno : ¬(n = 0 ∨ 0x8000000000000000 < n) := by omega
      simp only [Bool.false_eq_true, if_false, if_true, if_neg hno]

theorem readUnsigned_toDigits (negative : Bool) {n : Nat} {rest : List Char}
    (hrest : EndsNumeral rest) (hbound : n ≤ maxSignificand)
    (hsign : negative = true → 0 < n ∧ n ≤ 0x8000000000000000) :
    readUnsigned negative (Nat.toDigits 10 n ++ rest) =
      some (.integer (if negative then -(n : Int) else n), rest) := by
  rcases Nat.eq_zero_or_pos n with rfl | hpos
  · rw [Nat.toDigits_zero, List.singleton_append, readUnsigned, hrest.startsWithDigit]
    exact finishNumber_of_endsNumeral hrest hsign
  · have hvalue := Nat.ofDigitChars_ten_toDigits (n := n)
    obtain ⟨c, cs, hcs, hdigits, hne⟩ := exists_toDigits_eq_cons n
    rw [hcs] at hvalue ⊢
    have htake := takeDigits_append hdigits hrest (hvalue ▸ hbound) 0
    have hstarts : startsWithDigit (c :: cs ++ rest) = true := by
      simp [startsWithDigit, digit?_of_isDigit (hdigits c (by simp))]
    rw [readUnsigned.eq_def]
    split
    next tail heq => exact absurd (List.cons.inj heq).1 (hne hpos)
    next =>
      rw [hstarts, htake, hvalue]
      exact finishNumber_of_endsNumeral hrest hsign

/-- What is written for an integer is read as it. -/
theorem readNumber_signedDecimal {i : Int} (h : InRange i) {rest : List Char}
    (hrest : EndsNumeral rest) :
    readNumber (signedDecimal i ++ rest) = some (.integer i, rest) := by
  obtain ⟨hlow, hhigh⟩ := h
  cases i with
  | ofNat n =>
    have hbound : n ≤ maxSignificand := by
      rw [maxSignificand]
      rw [Int.ofNat_eq_natCast] at hhigh
      omega
    have hread := readUnsigned_toDigits false hrest hbound (by simp)
    obtain ⟨c, cs, hcs, hdigits, -⟩ := exists_toDigits_eq_cons n
    rw [signedDecimal, decimalDigits, readNumber.eq_def]
    split
    next tail heq =>
      -- a digit is no sign
      have hc := hdigits c (by simp)
      rw [hcs] at heq
      rw [(List.cons.inj heq).1] at hc
      exact absurd hc (by decide)
    next => exact hread
  | negSucc n =>
    have hbound : n + 1 ≤ 0x8000000000000000 := by omega
    have hmax : n + 1 ≤ maxSignificand := by
      rw [maxSignificand]
      omega
    rw [signedDecimal, decimalDigits, List.cons_append, readNumber,
      readUnsigned_toDigits true hrest hmax fun _ => ⟨by omega, hbound⟩]
    rfl

/-- An integer begins with a digit or a minus sign, and holds nothing else. -/
theorem signedDecimal_eq_cons (i : Int) : ∃ c cs, signedDecimal i = c :: cs ∧
    (c.isDigit = true ∨ c = '-') ∧ ∀ d ∈ cs, d.isDigit = true := by
  cases i with
  | ofNat n =>
    obtain ⟨c, cs, hcs, hdigits, -⟩ := exists_toDigits_eq_cons n
    exact ⟨c, cs, hcs, .inl (hdigits c (by simp)), fun d hd => hdigits d (by simp [hd])⟩
  | negSucc n =>
    refine ⟨'-', _, rfl, .inr rfl, fun d hd => ?_⟩
    exact Nat.isDigit_of_mem_toDigits (by decide) (by decide) hd

theorem isVisible_signedDecimal (i : Int) : IsVisible (signedDecimal i) := by
  have hdigit {d : Char} (hd : d.isDigit = true) : 0x20 ≤ d.toNat := by
    rw [Char.isDigit_iff_toNat] at hd
    exact Nat.le_trans (by decide) hd.1
  obtain ⟨c, cs, hcs, hc, htail⟩ := signedDecimal_eq_cons i
  rw [hcs]
  refine .cons ?_ fun d hd => hdigit (htail d hd)
  rcases hc with hc | rfl
  · exact hdigit hc
  · decide

end ModerationGateway.Json
