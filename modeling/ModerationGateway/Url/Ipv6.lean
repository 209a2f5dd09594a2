import ModerationGateway.Number.Digits
import ModerationGateway.Number.Shortest
import ModerationGateway.Text.Split

/-!
# Network addresses of eight pieces

Such an address is written as eight pieces of up to four hexadecimal digits with colons between
them. Two colons stand for as many pieces of zero as are missing, at least one, and the last two
pieces can be four decimal bytes with dots.

* `parse?`, `text`: the address of a text, and its text, in which two colons stand for the longest
  run of zeros.
-/

namespace ModerationGateway.Url.Ipv6

/-- The pieces of an address. -/
abbrev Pieces := List UInt16

/-- How many pieces there are. -/
def size : Nat := 8

/-- One piece. -/
def piece? (cs : List Char) : Option UInt16 :=
  if !cs.isEmpty ∧ cs.length ≤ 4 ∧ cs.all isHexDigit then some (UInt16.ofNat (ofDigits 16 cs))
  else none

/-- A decimal byte without zeros in front. -/
def byte? (cs : List Char) : Option Nat :=
  let n := ofDigits 10 cs
  if cs.all Char.isDigit ∧ !cs.isEmpty ∧ cs.length ≤ 3 ∧ n < 256 ∧
      (cs.head? = some '0' → cs.length = 1) then some n
  else none

/-- Two pieces as four bytes. -/
def dotted? (cs : List Char) : Option Pieces :=
  match (Text.splitAt (· == '.') cs).mapM byte? with
  | some [a, b, c, d] => some [UInt16.ofNat (a * 256 + b), UInt16.ofNat (c * 256 + d)]
  | _ => none

/-- Pieces with colons between them, the last two of which may be bytes. -/
def pieces? (allowBytes : Bool) : List (List Char) → Option Pieces
  | [] => some []
  | [last] =>
    if allowBytes && last.contains '.' then dotted? last else (piece? last).map ([·])
  | first :: rest => do return (← piece? first) :: (← pieces? allowBytes rest)

/-- What stands on one side of two colons. -/
def side? (allowBytes : Bool) (cs : List Char) : Option Pieces :=
  if cs.isEmpty then some [] else pieces? allowBytes (Text.splitAt (· == ':') cs)

/-- What stands before the first two colons in a row, and what stands behind them. -/
def cutColons : List Char → List Char × Option (List Char)
  | ':' :: ':' :: rest => ([], some rest)
  | [] => ([], none)
  | c :: rest =>
    let (front, back) := cutColons rest
    (c :: front, back)

/-- The address of a text. -/
def parse? (cs : List Char) : Option Pieces :=
  match cutColons cs with
  | (cs, none) => do
    let pieces ← pieces? true (Text.splitAt (· == ':') cs)
    if pieces.length = size then some pieces else none
  | (front, some back) => do
    let front ← side? false front
    let back ← side? true back
    let given := front.length + back.length
    if given < size then some (front ++ List.replicate (size - given) 0 ++ back) else none

/-- Where the longest run of zeros starts, the first one of several, and its length. A single zero
is no run. -/
def longestRun (pieces : Pieces) : Nat × Nat :=
  (List.range pieces.length).foldl (fun (start, length) i =>
    let here := ((pieces.drop i).takeWhile (· == 0)).length
    if length < here then (i, here) else (start, length)) (pieces.length, 1)

/-- The number that the pieces make up. -/
def number (pieces : Pieces) : Nat := pieces.foldl (fun n piece => n * 0x10000 + piece.toNat) 0

/-- The text of a piece. -/
def pieceText (piece : UInt16) : String := String.ofList (Nat.toDigits 16 piece.toNat)

/-- The text of an address. -/
def text (pieces : Pieces) : String :=
  let joined (pieces : Pieces) : String := ":".intercalate (pieces.map pieceText)
  match longestRun pieces with
  | (_, 1) => joined pieces
  | (start, length) => joined (pieces.take start) ++ "::" ++ joined (pieces.drop (start + length))

example : (parse? "::0001".toList).map text = some "::1" := by decide +kernel
example : (parse? "0:0:1:0:0:0:1:0".toList).map text = some "0:0:1::1:0" := by decide +kernel
example : (parse? "::ffff:127.0.0.1".toList).map text = some "::ffff:7f00:1" := by decide +kernel
example : parse? "1::2::3".toList = none := by decide +kernel
example : parse? "1:2:3:4:5:6:7::8".toList = none := by decide +kernel

end ModerationGateway.Url.Ipv6
