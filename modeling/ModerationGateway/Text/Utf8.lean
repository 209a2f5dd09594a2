/-!
# UTF-8

Reading bytes as characters is a machine that holds at most one unfinished character. Each byte
either continues it or ends it as ill-formed; an ill-formed subpart is therefore maximal, and the
byte that ended it is read again as the first of a character.

* `encode`: the bytes of a list of characters;
* `scan`: the characters of a byte string, `none` standing for one ill-formed subpart;
* `decode?`: the characters of a well-formed byte string;
* `decodeLossy`: every ill-formed subpart replaced by U+FFFD.
-/

namespace ModerationGateway

/-- A byte string. -/
abbrev Bytes := List UInt8

namespace Utf8

/-- The bytes of the characters, in order. -/
def encode (cs : List Char) : Bytes := cs.flatMap String.utf8EncodeChar

/-- An unfinished character: the range its next byte must lie in, how many more bytes follow that
one, and the bits read so far. -/
structure Pending where
  low : UInt8
  high : UInt8
  more : Nat
  bits : Nat
  deriving DecidableEq, Repr

/-- What a first byte does: it is a character, it starts one, or it starts none. -/
inductive Lead where
  | single (c : Char)
  | opens (p : Pending)
  | illFormed
  deriving DecidableEq, Repr

/-- The role of a byte between characters. -/
def lead (b : UInt8) : Lead :=
  let n := b.toNat
  if n < 0x80 then .single (Char.ofNat n)
  else if n < 0xC2 then .illFormed
  else if n < 0xE0 then .opens ⟨0x80, 0xBF, 0, n - 0xC0⟩
  else if n = 0xE0 then .opens ⟨0xA0, 0xBF, 1, 0⟩
  else if n = 0xED then .opens ⟨0x80, 0x9F, 1, 13⟩
  else if n < 0xF0 then .opens ⟨0x80, 0xBF, 1, n - 0xE0⟩
  else if n = 0xF0 then .opens ⟨0x90, 0xBF, 2, 0⟩
  else if n < 0xF4 then .opens ⟨0x80, 0xBF, 2, n - 0xF0⟩
  else if n = 0xF4 then .opens ⟨0x80, 0x8F, 2, 4⟩
  else .illFormed

/-- Read a byte between characters: the characters it completes, and what stays unfinished. -/
def start (b : UInt8) : List (Option Char) × Option Pending :=
  match lead b with
  | .single c => ([some c], none)
  | .opens p => ([], some p)
  | .illFormed => ([none], none)

/-- Read a byte inside a character. A byte that does not fit ends it as ill-formed and is read
again as a first byte. -/
def resume (p : Pending) (b : UInt8) : List (Option Char) × Option Pending :=
  if p.low ≤ b ∧ b ≤ p.high then
    let bits := p.bits * 64 + (b.toNat - 0x80)
    match p.more with
    | 0 => ([some (Char.ofNat bits)], none)
    | more + 1 => ([], some ⟨0x80, 0xBF, more, bits⟩)
  else
    let (out, next) := start b
    (none :: out, next)

/-- Read one byte. -/
def step : Option Pending → UInt8 → List (Option Char) × Option Pending
  | none, b => start b
  | some p, b => resume p b

/-- The characters of the bytes that follow; an unfinished character at the end is ill-formed. -/
def scanFrom : Option Pending → Bytes → List (Option Char)
  | none, [] => []
  | some _, [] => [none]
  | state, b :: bs =>
    let (out, next) := step state b
    out ++ scanFrom next bs

/-- The characters of a byte string, `none` for each ill-formed subpart. -/
def scan (bs : Bytes) : List (Option Char) := scanFrom none bs

/-- All characters present, in order. -/
def sequence : List (Option Char) → Option (List Char)
  | [] => some []
  | none :: _ => none
  | some c :: cs => (sequence cs).map (c :: ·)

/-- The characters of a byte string, if it is well-formed. -/
def decode? (bs : Bytes) : Option (List Char) := sequence (scan bs)

/-- The characters of a byte string with U+FFFD for each ill-formed subpart. -/
def decodeLossy (bs : Bytes) : List Char := (scan bs).map fun c => c.getD '\uFFFD'

@[simp] theorem encode_nil : encode [] = [] := rfl

@[simp] theorem encode_cons (c : Char) (cs : List Char) :
    encode (c :: cs) = String.utf8EncodeChar c ++ encode cs := by
  simp [encode]

@[simp] theorem encode_append (cs ds : List Char) : encode (cs ++ ds) = encode cs ++ encode ds := by
  simp [encode]

@[simp] theorem scan_nil : scan [] = [] := rfl
@[simp] theorem decodeLossy_nil : decodeLossy [] = [] := rfl

/-! ### Strings -/

/-- The bytes of a string. -/
def ofText (s : String) : Bytes := encode s.toList

/-- The string of a byte sequence, U+FFFD standing for each ill-formed subpart. -/
def textLossy (bs : Bytes) : String := String.ofList (decodeLossy bs)

/-- The string of a well-formed byte sequence. -/
def text? (bs : Bytes) : Option String := (decode? bs).map String.ofList

@[simp] theorem ofText_append (s t : String) : ofText (s ++ t) = ofText s ++ ofText t := by
  simp [ofText]

end Utf8

end ModerationGateway
