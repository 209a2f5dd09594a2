import ModerationGateway.Http.Message

/-!
# Heads of messages

The head of a response is a line with the status and a line for each header, up to an empty line.
A line ends in a line feed, with or without a carriage return in front of it.

* `line?`, `fields?`: a line, and the headers up to an empty line;
* `Head`, `Head.ofBytes?`: the head of a response, and the one that bytes start with.
-/

namespace ModerationGateway.Http

/-- The line that bytes start with, and what follows it. -/
def line? (bs : Bytes) : Option (Bytes × Bytes) :=
  match bs.dropWhile (· != 0x0A) with
  | [] => none
  | _ :: rest =>
    let line := bs.takeWhile (· != 0x0A)
    some (if line.getLast? = some 0x0D then line.dropLast else line, rest)

theorem length_of_line? {bs line rest : Bytes} (h : line? bs = some (line, rest)) :
    rest.length < bs.length := by
  have := (List.dropWhile_sublist (· != 0x0A) (l := bs)).length_le
  simp only [line?] at h
  split at h
  · simp at h
  · simp only [Option.some.injEq, Prod.mk.injEq] at h
    obtain ⟨-, rfl⟩ := h
    simp_all only [List.length_cons]
    omega

/-- A byte of a name. -/
def isNameByte (b : UInt8) : Bool :=
  let c := Char.ofNat b.toNat
  b < 0x80 && (c.isAlphanum || ['!', '#', '$', '%', '&', '\'', '*', '+', '-', '.', '^', '_',
    Char.ofNat 0x60, '|', '~'].contains c)

/-- The longest name. -/
def longestName : Nat := 65535

/-- The header of a line. -/
def field? (line : Bytes) : Option (String × Bytes) :=
  match line.takeWhile isNameByte, line.dropWhile isNameByte with
  | b :: name, 0x3A :: value =>
    let value := Headers.trimValue value
    if name.length < longestName ∧ Headers.isValue value then
      some (Text.lowerAscii (Utf8.textLossy (b :: name)), value)
    else none
  | _, _ => none

/-- At most so many headers, up to an empty line, and what follows it. -/
def fields? (limit : Nat) (bs : Bytes) : Option (Headers × Bytes) :=
  match line? bs, limit with
  | none, _ => none
  | some ([], rest), _ => some ([], rest)
  | some (_ :: _, _), 0 => none
  | some (b :: line, rest), limit + 1 => do
    let field ← field? (b :: line)
    let (fields, rest) ← fields? limit rest
    return (field :: fields, rest)

theorem length_of_fields? {limit : Nat} {bs rest : Bytes} {fields : Headers}
    (h : fields? limit bs = some (fields, rest)) : rest.length < bs.length := by
  fun_induction fields? limit bs generalizing fields rest with
  | case1 => simp at h
  | case2 _ _ _ hl =>
    simp only [Option.some.injEq, Prod.mk.injEq] at h
    obtain ⟨-, rfl⟩ := h
    exact length_of_line? hl
  | case3 => simp at h
  | case4 _ _ _ _ _ hl ih =>
    simp only [Option.bind_eq_bind, Option.bind_eq_some_iff, Option.pure_def, Option.some.injEq,
      Prod.mk.injEq] at h
    obtain ⟨_, -, ⟨_, _⟩, hf, -, rfl⟩ := h
    exact Nat.lt_trans (ih hf) (length_of_line? hl)

/-- The head of a response of the first version. -/
structure Head where
  /-- The second number of the version. -/
  minor : Nat
  status : Nat
  reason : String
  headers : Headers
  deriving DecidableEq, Repr

namespace Head

/-- How many headers a head may have. -/
def mostFields : Nat := 100

/-- How many bytes a head may take. -/
def longest : Nat := 417792

/-- The number of a status in three digits. -/
def statusOf? (a b c : UInt8) : Option Nat :=
  let digits := [a, b, c].map fun d => Char.ofNat d.toNat
  let n := ofDigits 10 digits
  if digits.all Char.isDigit ∧ 100 ≤ n then some n else none

/-- The words beside a status, if there are any. Words beyond ASCII do not count. -/
def reason? : Bytes → Option String
  | [] => some ""
  | b :: reason =>
    if b = 0x20 ∧ Headers.isValue reason then some ((Headers.visible? reason).getD "") else none

/-- The version, the status and the words of a line. -/
def statusLine? (line : Bytes) : Option (Nat × Nat × String) :=
  let mark := Utf8.ofText "HTTP/1."
  if mark.isPrefixOf line then
    match line.drop mark.length with
    | minor :: 0x20 :: a :: b :: c :: rest =>
      if minor = 0x30 ∨ minor = 0x31 then do
        let status ← statusOf? a b c
        return (minor.toNat - 0x30, status, ← reason? rest)
      else none
    | _ => none
  else none

/-- Empty lines in front do not count. -/
def skipLines : Bytes → Bytes
  | 0x0D :: 0x0A :: rest => skipLines rest
  | 0x0A :: rest => skipLines rest
  | bs => bs

theorem length_skipLines_le (bs : Bytes) : (skipLines bs).length ≤ bs.length := by
  fun_induction skipLines bs with
  | case1 _ ih => simp only [List.length_cons]; omega
  | case2 _ ih => simp only [List.length_cons]; omega
  | case3 => exact Nat.le_refl _

/-- The head that bytes start with, and what follows it. -/
def ofBytes? (bs : Bytes) : Option (Head × Bytes) := do
  let (line, rest) ← line? (skipLines bs)
  let (minor, status, reason) ← statusLine? line
  let (headers, rest) ← fields? mostFields rest
  if longest < bs.length - rest.length then none
  return (⟨minor, status, reason, headers⟩, rest)

theorem length_of_ofBytes? {bs rest : Bytes} {head : Head} (h : ofBytes? bs = some (head, rest)) :
    rest.length < bs.length := by
  simp only [ofBytes?, Option.bind_eq_bind, Option.bind_eq_some_iff] at h
  obtain ⟨⟨line, _⟩, hl, _, -, ⟨_, rest'⟩, hf, h⟩ := h
  have := length_skipLines_le bs
  have := length_of_line? hl
  have := length_of_fields? hf
  split at h <;> simp_all
  omega

/-- The head only tells that another one follows. -/
def isInterim (h : Head) : Bool := 100 ≤ h.status && h.status < 200 && h.status != 101

example : (ofBytes? (Utf8.ofText "HTTP/1.1 404 X\r\nA: b \r\n\r\nc")).map (·.1) =
    some ⟨1, 404, "X", [("a", [0x62])]⟩ := by decide +kernel
example : ofBytes? (Utf8.ofText "HTTP/1.1 99 X\r\n\r\n") = none := by decide +kernel
example : ofBytes? (Utf8.ofText "HTTP/1.1 200 X\r\na b: c\r\n\r\n") = none := by decide +kernel

end Head

end ModerationGateway.Http
