import ModerationGateway.Proofs.Json.Tokens

/-!
# Documents, written and read

A value without doubles is read again from what is written for it, its objects with their fields
sorted and the last of equal names only. The text of such a value is one line.

* `IsPlain`: a value without doubles, containers nested at most so deep;
* `normal`: the value with the fields of all objects sorted;
* `reads`, `parse?_render`: what is written for a plain value is read as its normal form;
* `isVisible_render`: it holds no control character.
-/

namespace ModerationGateway.Json

mutual

/-- A value without doubles whose containers are nested at most so deep. -/
def IsPlain : Nat → Json → Prop
  | _, .null => True
  | _, .bool _ => True
  | _, .number (.integer i) => InRange i
  | _, .number (.double _) => False
  | _, .string _ => True
  | 0, .array _ => False
  | depth + 1, .array items => ArePlain depth items
  | 0, .object _ => False
  | depth + 1, .object fields => HavePlain depth fields

/-- Plain values. -/
def ArePlain : Nat → List Json → Prop
  | _, [] => True
  | depth, item :: items => IsPlain depth item ∧ ArePlain depth items

/-- Fields with plain values. -/
def HavePlain : Nat → List (String × Json) → Prop
  | _, [] => True
  | depth, (_, value) :: fields => IsPlain depth value ∧ HavePlain depth fields

end

mutual

/-- The value with the fields of all its objects sorted by name, the last of equal names only. -/
def normal : Json → Json
  | .array items => .array (normalItems items)
  | .object fields => ofFields (normalFields fields)
  | j => j

/-- The normal forms of items. -/
def normalItems : List Json → List Json
  | [] => []
  | item :: items => normal item :: normalItems items

/-- The normal forms of the values of fields. -/
def normalFields : List (String × Json) → List (String × Json)
  | [] => []
  | (name, value) :: fields => (name, normal value) :: normalFields fields

end

/-! ### The front of a value -/

theorem skipSpaces_cons {c : Char} (h : isSpace c = false) (cs : List Char) :
    skipSpaces (c :: cs) = c :: cs := by
  simp [skipSpaces, h]

theorem endsNumeral_cons {c : Char} (h : c = ',' ∨ c = ']' ∨ c = '\x7d') (cs : List Char) :
    EndsNumeral (c :: cs) := by
  intro d hd
  obtain rfl : c = d := by simpa using hd
  rcases h with rfl | rfl | rfl <;> decide

/-- The first character of a numeral is no white space. -/
theorem isSpace_of_isDigit {c : Char} (h : c.isDigit = true ∨ c = '-') : isSpace c = false := by
  simp only [isSpace, Bool.or_eq_false_iff, beq_eq_false_iff_ne]
  refine ⟨⟨⟨?_, ?_⟩, ?_⟩, ?_⟩ <;> rintro rfl <;> exact absurd h (by decide)

/-- A value begins with no white space and no closing bracket. -/
theorem exists_render_eq_cons {depth : Nat} {j : Json} (h : IsPlain depth j) :
    ∃ c cs, j.render = c :: cs ∧ isSpace c = false ∧ c ≠ ']' := by
  cases j with
  | null => exact ⟨_, _, rfl, by decide⟩
  | bool b => cases b <;> exact ⟨_, _, rfl, by decide⟩
  | string s => exact ⟨_, _, rfl, by decide⟩
  | array items => exact ⟨_, _, rfl, by decide⟩
  | object fields => exact ⟨_, _, rfl, by decide⟩
  | number n =>
    cases n with
    | double x => cases depth <;> exact h.elim
    | integer i =>
      obtain ⟨c, cs, hcs, hc, -⟩ := signedDecimal_eq_cons i
      refine ⟨c, cs, hcs, isSpace_of_isDigit hc, ?_⟩
      rintro rfl
      exact absurd hc (by decide)

/-- A list of values begins like its first value. -/
theorem exists_renderItems_eq_cons {depth : Nat} {item : Json} (h : IsPlain depth item)
    (items : List Json) :
    ∃ c cs, renderItems (item :: items) = c :: cs ∧ isSpace c = false ∧ c ≠ ']' := by
  obtain ⟨c, cs, hcs, hc⟩ := exists_render_eq_cons h
  cases items with
  | nil => exact ⟨c, cs, hcs, hc⟩
  | cons next items =>
    exact ⟨c, cs ++ ',' :: renderItems (next :: items), by simp [renderItems, hcs], hc⟩

/-- A list of fields begins with a quote. -/
theorem exists_renderFields_eq_cons (field : String × Json) (fields : List (String × Json)) :
    ∃ cs, renderFields (field :: fields) = '"' :: cs := by
  cases fields with
  | nil => exact ⟨_, rfl⟩
  | cons next fields => exact ⟨_, rfl⟩

/-! ### One step into a value -/

theorem readValue_quote (fuel depth : Nat) (cs : List Char) :
    readValue (fuel + 1) depth ('"' :: cs) =
      (readString cs).map fun (s, rest) => (.string (String.ofList s), rest) := by
  rw [readValue, skipSpaces_cons (by decide)]
  simp

theorem readValue_bracket {c : Char} (hspace : isSpace c = false) (hclose : c ≠ ']')
    (fuel depth : Nat) (cs : List Char) :
    readValue (fuel + 1) (depth + 1) ('[' :: c :: cs) =
      (readItems fuel depth (c :: cs)).map fun (items, rest) => (.array items, rest) := by
  rw [readValue, skipSpaces_cons (by decide)]
  simp [skipSpaces_cons hspace, hclose]

theorem readValue_brace (fuel depth : Nat) (cs : List Char) :
    readValue (fuel + 1) (depth + 1) ('\x7b' :: '"' :: cs) =
      (readFields fuel depth ('"' :: cs)).map fun (fields, rest) => (ofFields fields, rest) := by
  rw [readValue, skipSpaces_cons (by decide)]
  simp [skipSpaces_cons (show isSpace '"' = false by decide)]

theorem readValue_numeral {c : Char} (h : c.isDigit = true ∨ c = '-') (fuel depth : Nat)
    (cs : List Char) :
    readValue (fuel + 1) depth (c :: cs) =
      (readNumber (c :: cs)).map fun (n, rest) => (.number n, rest) := by
  have hne (d : Char) (hd : ¬(d.isDigit = true ∨ d = '-')) : c ≠ d := fun hc => hd (hc ▸ h)
  rw [readValue, skipSpaces_cons (isSpace_of_isDigit h)]
  simp [hne 'n' (by decide), hne 't' (by decide), hne 'f' (by decide), hne '"' (by decide),
    hne '[' (by decide), hne '\x7b' (by decide)]

theorem readFields_quoted (fuel depth : Nat) (name : String) (cs : List Char) :
    readFields (fuel + 1) depth (quoted name ++ ':' :: cs) =
      (readValue fuel depth cs).bind fun (value, rest) =>
        match skipSpaces rest with
        | ',' :: rest =>
          (readFields fuel depth rest).map fun (fields, rest) => ((name, value) :: fields, rest)
        | '\x7d' :: rest => some ([(name, value)], rest)
        | _ => none := by
  rw [quoted, List.cons_append, List.cons_append, List.append_assoc, readFields,
    skipSpaces_cons (by decide), List.singleton_append]
  simp only [readString_flatMap_escape, skipSpaces_cons (show isSpace ':' = false by decide),
    String.ofList_toList]
  cases readValue fuel depth cs <;> rfl

/-! ### Whole values -/

/-- With this fuel what is written for a plain value is read as its normal form, whatever stands
behind, if the fuel is at least twice its length. -/
def ReadsValues (fuel : Nat) : Prop :=
  ∀ {depth : Nat} {j : Json} {rest : List Char}, IsPlain depth j → 2 * j.render.length ≤ fuel →
    EndsNumeral rest → readValue fuel depth (j.render ++ rest) = some (j.normal, rest)

/-- The same for items up to the closing bracket, which take one step more. -/
def ReadsItems (fuel : Nat) : Prop :=
  ∀ {depth : Nat} {item : Json} {items : List Json} (rest : List Char),
    ArePlain depth (item :: items) → 2 * (renderItems (item :: items)).length < fuel →
      readItems fuel depth (renderItems (item :: items) ++ ']' :: rest) =
        some (normalItems (item :: items), rest)

/-- The same for fields up to the closing brace. -/
def ReadsFields (fuel : Nat) : Prop :=
  ∀ {depth : Nat} {field : String × Json} {fields : List (String × Json)} (rest : List Char),
    HavePlain depth (field :: fields) → 2 * (renderFields (field :: fields)).length < fuel →
      readFields fuel depth (renderFields (field :: fields) ++ '\x7d' :: rest) =
        some (normalFields (field :: fields), rest)

theorem ReadsItems.readsValues {fuel : Nat} (hitems : ReadsItems fuel)
    (hfields : ReadsFields fuel) : ReadsValues (fuel + 1) := by
  intro depth j rest hplain hfuel hrest
  cases j with
  | null => simp [render, readValue, skipSpaces, isSpace, normal]
  | bool b => cases b <;> simp [render, readValue, skipSpaces, isSpace, normal]
  | string s =>
    rw [render, quoted, List.cons_append, List.cons_append, List.append_assoc, readValue_quote,
      List.singleton_append, readString_flatMap_escape]
    simp [normal]
  | number n =>
    cases n with
    | double x => cases depth <;> exact hplain.elim
    | integer i =>
      have hrange : InRange i := by cases depth <;> exact hplain
      have hread := readNumber_signedDecimal hrange hrest
      obtain ⟨c, cs, hcs, hc, -⟩ := signedDecimal_eq_cons i
      rw [hcs, List.cons_append] at hread
      rw [render, Number.render, hcs, List.cons_append, readValue_numeral hc, hread]
      simp [normal]
  | array items =>
    cases depth with
    | zero => exact hplain.elim
    | succ depth =>
      cases items with
      | nil => simp [render, renderItems, readValue, skipSpaces, isSpace, normal, normalItems]
      | cons item items =>
        simp only [render, List.length_append, List.length_cons, List.length_nil] at hfuel
        have hread := hitems rest hplain (by omega)
        obtain ⟨c, cs, hcs, hspace, hclose⟩ := exists_renderItems_eq_cons hplain.1 items
        rw [hcs, List.cons_append] at hread
        rw [render, hcs, List.append_assoc, List.cons_append, List.cons_append,
          readValue_bracket hspace hclose, List.singleton_append, hread]
        simp [normal]
  | object fields =>
    cases depth with
    | zero => exact hplain.elim
    | succ depth =>
      cases fields with
      | nil =>
        simp [render, renderFields, readValue, skipSpaces, isSpace, normal, normalFields, ofFields]
      | cons field fields =>
        simp only [render, List.length_append, List.length_cons, List.length_nil] at hfuel
        have hread := hfields rest hplain (by omega)
        obtain ⟨cs, hcs⟩ := exists_renderFields_eq_cons field fields
        rw [hcs, List.cons_append] at hread
        rw [render, hcs, List.append_assoc, List.cons_append, List.cons_append, readValue_brace,
          List.singleton_append, hread]
        simp [normal]

theorem ReadsValues.readsItems {fuel : Nat} (hvalues : ReadsValues fuel)
    (hitems : ReadsItems fuel) : ReadsItems (fuel + 1) := by
  intro depth item items rest hplain hfuel
  cases items with
  | nil =>
    rw [renderItems] at hfuel
    have hread := hvalues hplain.1 (by omega) (endsNumeral_cons (.inr (.inl rfl)) rest)
    rw [renderItems, readItems, hread]
    simp [skipSpaces_cons (show isSpace ']' = false by decide), normalItems]
  | cons next items =>
    simp only [renderItems, List.length_append, List.length_cons] at hfuel
    have hread := hvalues hplain.1 (by omega)
      (endsNumeral_cons (.inl rfl) (renderItems (next :: items) ++ ']' :: rest))
    have hmore := hitems rest hplain.2 (by omega)
    rw [renderItems, List.append_assoc, List.cons_append, readItems, hread]
    · simp [skipSpaces_cons (show isSpace ',' = false by decide), hmore, normalItems]
    · exact List.cons_ne_nil _ _

theorem ReadsValues.readsFields {fuel : Nat} (hvalues : ReadsValues fuel)
    (hfields : ReadsFields fuel) : ReadsFields (fuel + 1) := by
  intro depth field fields rest hplain hfuel
  obtain ⟨name, value⟩ := field
  cases fields with
  | nil =>
    simp only [renderFields, quoted, List.length_append, List.length_cons] at hfuel
    have hread := hvalues hplain.1 (by omega) (endsNumeral_cons (.inr (.inr rfl)) rest)
    rw [renderFields, List.append_assoc, List.cons_append, readFields_quoted, hread,
      Option.bind_some]
    simp [skipSpaces_cons (show isSpace '\x7d' = false by decide), normalFields]
  | cons next fields =>
    simp only [renderFields, List.length_append, List.length_cons] at hfuel
    have hread := hvalues hplain.1 (by omega)
      (endsNumeral_cons (.inl rfl) (renderFields (next :: fields) ++ '\x7d' :: rest))
    have hmore := hfields rest hplain.2 (by omega)
    rw [renderFields, List.append_assoc, List.append_assoc, List.cons_append, List.cons_append,
      readFields_quoted, hread, Option.bind_some]
    · simp [skipSpaces_cons (show isSpace ',' = false by decide), hmore, normalFields]
    · exact List.cons_ne_nil _ _

theorem reads (fuel : Nat) : ReadsValues fuel ∧ ReadsItems fuel ∧ ReadsFields fuel := by
  induction fuel with
  | zero =>
    refine ⟨fun hplain hfuel _ => ?_, fun _ _ hfuel => ?_, fun _ _ hfuel => ?_⟩
    · obtain ⟨c, cs, hcs, -⟩ := exists_render_eq_cons hplain
      rw [hcs] at hfuel
      contradiction
    · exact absurd hfuel (Nat.not_lt_zero _)
    · exact absurd hfuel (Nat.not_lt_zero _)
  | succ fuel ih =>
    obtain ⟨hvalues, hitems, hfields⟩ := ih
    exact ⟨hitems.readsValues hfields, hvalues.readsItems hitems, hvalues.readsFields hfields⟩

/-- A plain value is read again from what is written for it, in its normal form. -/
theorem parse?_render {j : Json} (h : IsPlain maxDepth j) : parse? j.render = some j.normal := by
  have hread := (reads (2 * j.render.length + 2)).1 h (Nat.le_add_right _ 2)
    (fun _ hc => absurd hc (by simp) : EndsNumeral [])
  rw [List.append_nil] at hread
  rw [parse?, hread]
  rfl

/-! ### One line -/

mutual

/-- The text of a plain value holds no control character. -/
theorem isVisible_render {depth : Nat} : (j : Json) → IsPlain depth j → IsVisible j.render
  | .null, _ => by decide
  | .bool true, _ => by decide
  | .bool false, _ => by decide
  | .number (.integer i), _ => isVisible_signedDecimal i
  | .number (.double _), h => by cases depth <;> exact h.elim
  | .string s, _ => isVisible_quoted s
  | .array items, h => by
    cases depth with
    | zero => exact h.elim
    | succ depth => exact ((isVisible_renderItems items h).cons (by decide)).append (by decide)
  | .object fields, h => by
    cases depth with
    | zero => exact h.elim
    | succ depth => exact ((isVisible_renderFields fields h).cons (by decide)).append (by decide)

theorem isVisible_renderItems {depth : Nat} :
    (items : List Json) → ArePlain depth items → IsVisible (renderItems items)
  | [], _ => by decide
  | [item], h => isVisible_render item h.1
  | item :: next :: items, h =>
    (isVisible_render item h.1).append
      ((isVisible_renderItems (next :: items) h.2).cons (by decide))

theorem isVisible_renderFields {depth : Nat} :
    (fields : List (String × Json)) → HavePlain depth fields → IsVisible (renderFields fields)
  | [], _ => by decide
  | [(name, value)], h =>
    (isVisible_quoted name).append ((isVisible_render value h.1).cons (by decide))
  | (name, value) :: next :: fields, h =>
    ((isVisible_quoted name).append ((isVisible_render value h.1).cons (by decide))).append
      ((isVisible_renderFields (next :: fields) h.2).cons (by decide))

end

end ModerationGateway.Json
