import ModerationGateway.Text.Split
import ModerationGateway.Text.Utf8

/-!
# Names of resources in messages

What a message may name a resource by. Nothing is changed on the way: a text either is such a name
or it is not.

* `Uri`, `Uri.text`: a name by its parts, and its text. A fragment does not count;
* `Uri.parse?`: the name of a text.
-/

namespace ModerationGateway.Http

open ModerationGateway.Text

/-- A resource as a message names it. -/
structure Uri where
  scheme : Option String
  authority : Option String
  /-- The path as it is written, perhaps empty. -/
  path : String
  query : Option String
  deriving DecidableEq, Repr

namespace Uri

/-! ### Parts of a name -/

/-- The path and the query as they are written. -/
def written (u : Uri) : String :=
  u.path ++ match u.query with
    | some q => "?" ++ q
    | none => ""

/-- The path. A resource on a host has one at least. -/
def fullPath (u : Uri) : String := if u.path.isEmpty ∧ u.scheme.isSome then "/" else u.path

/-- What a host is asked for. -/
def target (u : Uri) : String := if u.written.isEmpty ∧ u.scheme.isSome then "/" else u.written

/-- The text of a name. -/
def text (u : Uri) : String :=
  (match u.scheme with
    | some s => s ++ "://"
    | none => "") ++ u.authority.getD "" ++ u.fullPath ++
  match u.query with
    | some q => "?" ++ q
    | none => ""

/-! ### Characters -/

/-- The longest name in bytes. -/
def longest : Nat := 65534

/-- The longest scheme. -/
def longestScheme : Nat := 64

/-- A character of a scheme. -/
def isSchemeChar (c : Char) : Bool := c.isAlphanum || c == '+' || c == '-' || c == '.'

/-- A character that stands for itself everywhere. -/
def isPlain (c : Char) : Bool :=
  c.isAlphanum ||
    ['!', '$', '&', '\'', '(', ')', '*', '+', ',', '-', '.', ';', '=', '_', '~'].contains c

/-- The start of a path, a query or a fragment. -/
def endsAuthority (c : Char) : Bool := c == '/' || c == '?' || c == '#'

/-- A character of a path. -/
def isPathChar (c : Char) : Bool :=
  0x20 < c.toNat && !(['#', '<', '>', '?', Char.ofNat 0x60].contains c)

/-- A character of a query. -/
def isQueryChar (c : Char) : Bool := 0x20 < c.toNat && !(['"', '#', '<', '>'].contains c)

/-! ### Reading -/

/-- What was seen of an authority. -/
structure Seen where
  colons : Nat
  opened : Bool
  closed : Bool
  /-- There is a percent sign, which only a user may have. -/
  percent : Bool
  deriving DecidableEq, Repr

/-- Nothing was seen. -/
def Seen.nothing : Seen := ⟨0, false, false, false⟩

/-- How many colons there can be. -/
def mostColons : Nat := 8

/-- See one character more. What stands before an `@`, or in brackets, is free to have colons and
percent signs. -/
def Seen.see? (s : Seen) (c : Char) : Option Seen :=
  if c = ':' then if s.colons < mostColons then some { s with colons := s.colons + 1 } else none
  else if c = '[' then if s.percent || s.opened then none else some { s with opened := true }
  else if c = ']' then
    if s.opened && !s.closed then some { s with closed := true, colons := 0, percent := false }
    else none
  else if c = '@' then some { s with colons := 0, percent := false }
  else if c = '%' then some { s with percent := true }
  else if isPlain c then some s
  else none

/-- The characters are an authority, perhaps an empty one. -/
def isAuthority (cs : List Char) : Bool :=
  match cs.foldlM Seen.see? .nothing with
  | some s => s.opened == s.closed && s.colons ≤ 1 && !s.percent && cs.getLast? != some '@'
  | none => false

/-- The scheme of a text that has two slashes behind it, and what follows these. -/
def cutScheme (cs : List Char) : Option (List Char) × List Char :=
  match cs.takeWhile isSchemeChar, cs.dropWhile isSchemeChar with
  | scheme, ':' :: '/' :: '/' :: rest => (some scheme, rest)
  | _, _ => (none, cs)

/-- The path and the query of a name. -/
def ofPath? (scheme authority : Option String) (cs : List Char) : Option Uri :=
  let (path, query) := cutAt (· == '?') (cutAt (· == '#') cs).1
  if path.all isPathChar ∧ query.all (·.all isQueryChar) then
    some ⟨scheme, authority, String.ofList path, query.map String.ofList⟩
  else none

/-- The name with an authority. Without a scheme there is nothing else. -/
def ofAuthority? (cs : List Char) : Option Uri :=
  let (scheme, rest) := cutScheme cs
  let (authority, path) := (rest.takeWhile (!endsAuthority ·), rest.dropWhile (!endsAuthority ·))
  if !isAuthority authority then none
  else
    match scheme with
    | none => if path.isEmpty then some ⟨none, some (String.ofList authority), "", none⟩ else none
    | some scheme =>
      if authority.isEmpty ∨ longestScheme < scheme.length then none
      else ofPath? (some (String.ofList scheme)) (some (String.ofList authority)) path

/-- The name of a text. -/
def parse? (s : String) : Option Uri :=
  if longest < s.utf8ByteSize then none
  else
    match s.toList with
    | [] => none
    | ['*'] => some ⟨none, none, "*", none⟩
    | '/' :: rest => ofPath? none none ('/' :: rest)
    | cs => ofAuthority? cs

example : (parse? "/a?b#c").map target = some "/a?b" := by decide +kernel
example : (parse? "http://h").map text = some "http://h/" := by decide +kernel
example : (parse? "h:80").map target = some "" := by decide +kernel
example : parse? "http://h\"/" = none := by decide +kernel
example : parse? "foo:/b" = none := by decide +kernel

end Uri

end ModerationGateway.Http
