import ModerationGateway.Domain.Mapping
import ModerationGateway.Domain.Punycode
import ModerationGateway.Unicode.Direction
import ModerationGateway.Unicode.Joining
import ModerationGateway.Unicode.Mark

/-!
# Domain names

A name is a list of labels with dots between them. A label beyond ASCII is looked up in its
Punycode form, with `xn--` in front.

* `Label`, `Label.ofText?`: a label with the form in which it is looked up, and the label of a
  text that was brought into its normal form;
* `joinsWell`, `isDirected`: what a label must satisfy so that nobody is misled by its look;
* `ascii?`: the name in the form in which it is looked up.
-/

namespace ModerationGateway.Domain

open ModerationGateway.Unicode

/-- All characters are in ASCII. -/
def isAscii (cs : List Char) : Bool := cs.all fun c => c.toNat < 0x80

/-! ### Joiners -/

/-- The character that keeps letters apart. -/
def nonJoiner : Char := '\u200c'

/-- The character that joins letters. -/
def joiner : Char := '\u200d'

/-- The next letter, marks passed over, is of one of some kinds. -/
def meets (kinds : List Joining) (cs : List Char) : Bool :=
  match cs.dropWhile fun c => joining c = .transparent with
  | [] => false
  | c :: _ => kinds.contains (joining c)

/-- A joiner behind some characters, the last one first, and in front of others has an effect: it
follows a sign that takes away a vowel, or it keeps apart letters that would join. -/
def hasEffect (c : Char) (before after : List Char) : Bool :=
  match before with
  | [] => false
  | last :: _ =>
    combiningClass last == viramaClass ||
      (c == nonJoiner && meets [.left, .both] before && meets [.right, .both] after)

/-- Every joiner behind some characters, the last one first, has an effect. -/
def joinsWell (before : List Char) : List Char → Bool
  | [] => true
  | c :: rest =>
    ((c != nonJoiner && c != joiner) || hasEffect c before rest) && joinsWell (c :: before) rest

/-! ### Directions -/

/-- Something in a label is written from right to left. -/
def hasRightToLeft (cs : List Char) : Bool :=
  cs.any fun c => [.rightToLeft, .arabicDigit].contains (direction c)

/-- The kinds of the characters, marks at the end left out. -/
def kindsOf (cs : List Char) : List Direction :=
  ((cs.map direction).reverse.dropWhile (· == .mark)).reverse

/-- The kinds end in one of some, if there are any. -/
def endsIn (ends kinds : List Direction) : Bool := kinds.getLast?.all fun k => ends.contains k

/-- A label keeps one direction. -/
def isDirected : List Char → Bool
  | [] => true
  | c :: rest =>
    let kinds := kindsOf rest
    match direction c with
    | .leftToRight =>
      (kinds.all fun k => [.leftToRight, .europeanDigit, .neutral, .mark].contains k) &&
        endsIn [.leftToRight, .europeanDigit] kinds
    | .rightToLeft =>
      (kinds.all fun k => k != .leftToRight && k != .space) &&
        endsIn [.rightToLeft, .europeanDigit, .arabicDigit] kinds &&
        !(kinds.contains .europeanDigit && kinds.contains .arabicDigit)
    | _ => false

/-! ### Labels -/

/-- A label, and the form in which it is looked up. -/
structure Label where
  text : List Char
  ascii : List Char
  deriving DecidableEq, Repr

/-- What stands in front of the Punycode form. -/
def marker : List Char := ['x', 'n', '-', '-']

/-- The longest Punycode form that is read. -/
def longestEncoded : Nat := 2000

/-- The longest label that is written in Punycode. -/
def longestLabel : Nat := 1000

/-- A text can be a label. -/
def isLabel (cs : List Char) : Bool := !cs.head?.any isMark && joinsWell [] cs

/-- The text of a Punycode form. It must be in normal form and beyond ASCII. -/
def decoded? (encoded : List Char) : Option (List Char) :=
  match Punycode.decode? encoded with
  | none => none
  | some text =>
    if isAscii text || marker.isPrefixOf text || normal? text != some text then none
    else some text

/-- The label of a text in normal form. -/
def Label.ofText? (cs : List Char) : Option Label :=
  if marker.isPrefixOf cs then
    let encoded := cs.drop marker.length
    if isAscii cs ∧ encoded.length ≤ longestEncoded then
      (decoded? encoded).bind fun text => if isLabel text then some ⟨text, cs⟩ else none
    else none
  else if !isLabel cs then none
  else if isAscii cs then some ⟨cs, cs⟩
  else if longestLabel < cs.length then none
  else some ⟨cs, marker ++ Punycode.encode cs⟩

/-- A character that has another meaning in addresses. -/
def isReserved (c : Char) : Bool :=
  c.toNat ≤ 0x20 || c.toNat == 0x7F ||
    ['%', '#', '/', ':', '<', '>', '?', '@', '[', '\\', ']', '^', '|'].contains c

/-- A name in the form in which it is looked up. If one label has something that is written from
right to left, every label keeps one direction. -/
def ascii? (name : List Char) : Option (List Char) := do
  let cs ← normal? name
  if cs.any isReserved then none
  let labels ← (Text.splitAt (· == '.') cs).mapM Label.ofText?
  let texts := labels.map (·.text)
  if texts.any hasRightToLeft ∧ !texts.all isDirected then none
  return ['.'].intercalate (labels.map (·.ascii))

end ModerationGateway.Domain
