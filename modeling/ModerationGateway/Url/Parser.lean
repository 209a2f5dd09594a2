import ModerationGateway.Url.Basic

/-!
# Reading addresses

White space around an address and line breaks in it do not count. What is read is brought into
one form: scheme and domain in lower case, numbers of hosts in their usual form, the port of the
scheme left out, dots on the path resolved, and characters that cannot stand where they are
written by their bytes.

* `Url.parse?`: the absolute address that a text means;
* `Url.join?`: the address that a text means on a page of the web.
-/

namespace ModerationGateway.Url

open ModerationGateway.Text

/-! ### Parts -/

/-- White space around a text and line breaks in it do not count. -/
def cleaned (cs : List Char) : List Char :=
  let isEdge (c : Char) : Bool := c.toNat ≤ 0x20
  let cs := ((cs.dropWhile isEdge).reverse.dropWhile isEdge).reverse
  cs.filter fun c => c != '\t' && c != '\n' && c != '\r'

/-- A character of a scheme. -/
def isSchemeChar (c : Char) : Bool := c.isAlphanum || c == '+' || c == '-' || c == '.'

/-- The scheme in front of a colon, and what follows the colon. -/
def scheme? (cs : List Char) : Option (String × List Char) :=
  match cutAt (· == ':') cs with
  | (c :: cs, some rest) =>
    if c.isAlpha ∧ cs.all isSchemeChar then
      some (String.ofList ((c :: cs).map Char.toLower), rest)
    else none
  | _ => none

/-- What a query cannot hold. -/
def queryMarks (k : SchemeKind) : List Char :=
  [' ', '"', '#', '<', '>'] ++ if k.isSpecial then ['\''] else []

/-- What a user's name cannot hold. -/
def userMarks : List Char :=
  Path.pathMarks ++ ['/', ':', ';', '=', '@', '[', '\\', ']', '^', '|']

/-- What follows the scheme: a body, a query and a fragment. -/
structure Parts where
  body : List Char
  query : Option String
  fragment : Option String

/-- The query and the fragment are split off. -/
def Parts.ofText (k : SchemeKind) (cs : List Char) : Parts :=
  let (cs, fragment) := cutAt (· == '#') cs
  let (body, query) := cutAt (· == '?') cs
  { body
    query := query.map fun q => String.ofList (Percent.encode (queryMarks k) q)
    fragment := fragment.map fun f => String.ofList (Percent.encode Path.fragmentMarks f) }

/-- Nothing follows the body. -/
def Parts.isBare (p : Parts) : Bool := p.query.isNone && p.fragment.isNone

/-! ### Authorities -/

/-- What stands before the last `@`, if there is one, and what follows it. -/
def cutUser (cs : List Char) : Option (List Char) × List Char :=
  let host := (cs.reverse.takeWhile (· != '@')).reverse
  if host.length = cs.length then (none, cs)
  else (some (cs.take (cs.length - host.length - 1)), host)

/-- What stands before the first colon outside brackets, and what follows it. -/
def cutPort (inBrackets : Bool) : List Char → List Char × Option (List Char)
  | [] => ([], none)
  | c :: rest =>
    if c = ':' ∧ !inBrackets then ([], some rest)
    else
      let (host, port) := cutPort (c = '[' || (inBrackets && c != ']')) rest
      (c :: host, port)

/-- A port, none if it is left out. -/
def givenPort? (cs : List Char) : Option (Option UInt16) :=
  if !cs.all Char.isDigit then none
  else if cs.isEmpty then some none
  else
    let n := ofDigits 10 cs
    if n < UInt16.size then some (some (UInt16.ofNat n)) else none

/-- The host of a text under a scheme of some kind. -/
def hostOf? (k : SchemeKind) (cs : List Char) : Option Host :=
  if k.isSpecial then Host.ofNetwork? cs else Host.ofOther? cs

/-- The usual port of a scheme of some kind. -/
def SchemeKind.usualPort? : SchemeKind → Option UInt16
  | network port => some port
  | _ => none

/-- The authority of a text. If nobody is addressed there is no port and no user. -/
def authority? (k : SchemeKind) (cs : List Char) : Option Authority := do
  let (user, rest) := cutUser cs
  let (name, password) := cutAt (· == ':') (user.getD [])
  let (host, port) := cutPort false rest
  let authority : Authority :=
    { user := String.ofList (Percent.encode userMarks name)
      password := String.ofList (Percent.encode userMarks (password.getD []))
      host := ← hostOf? k host
      port := none }
  if host.isEmpty ∧ (port.isSome ∨ !authority.isAnonymous) then none
  let port ← givenPort? (port.getD [])
  return { authority with port := if port = k.usualPort? then none else port }

/-- The address of a scheme with a host, given what follows the slashes. A backslash behind the
port of a host elsewhere starts the path. -/
def ofAuthority? (scheme : String) (k : SchemeKind) (p : Parts) (cs : List Char) : Option Url := do
  let (front, rest) := (cs.takeWhile (!k.isSlash ·), cs.dropWhile (!k.isSlash ·))
  let (_, port) := cutPort false (cutUser front).2
  let extra := (port.getD []).dropWhile (· != '\\')
  let front := front.take (front.length - extra.length)
  if front = ['@'] ∧ !(rest.isEmpty ∧ p.isBare) then none
  let authority ← authority? k front
  let rest := extra ++ rest
  let path := if rest.isEmpty ∧ !k.isSpecial then .segments [] else Path.ofText k.isSlash rest
  return ⟨scheme, some authority, path, p.query, p.fragment⟩

/-! ### Files -/

/-- The host of a file. This machine needs no name. -/
def fileHost? (cs : List Char) : Option Host :=
  if cs.isEmpty then some (.name "")
  else (Host.ofNetwork? cs).map fun host => if host = .name "localhost" then .name "" else host

/-- The host and the path of a file. The letter of a drive is no host. -/
def fileParts? (cs : List Char) : Option (Host × List Char) :=
  let isSlash := SchemeKind.file.isSlash
  match cs with
  | a :: b :: rest =>
    if isSlash a && isSlash b then
      let host := rest.takeWhile (!isSlash ·)
      if Path.isDrive host then some (.name "", rest)
      else (fileHost? host).map fun host => (host, rest.dropWhile (!isSlash ·))
    else some (.name "", cs)
  | _ => some (.name "", cs)

/-- The address of a file. A drive is on this machine. -/
def ofFile? (p : Parts) : Option Url :=
  (fileParts? p.body).map fun (host, path) =>
    let segments := Path.fileSegments SchemeKind.file.isSlash path
    let isLocal := segments.head?.any fun s => Path.isDrive s.toList
    ⟨"file", some ⟨"", "", if isLocal then .name "" else host, none⟩, .ofSegments segments,
      p.query, p.fragment⟩

/-! ### Whole addresses -/

/-- The address of a scheme that is neither of the network nor of files. -/
def ofOther? (scheme : String) (p : Parts) : Option Url :=
  match p.body with
  | '/' :: '/' :: rest => ofAuthority? scheme .other p rest
  | '/' :: rest => some ⟨scheme, none, .ofText (· == '/') ('/' :: rest), p.query, p.fragment⟩
  | cs => some ⟨scheme, none, .plain (String.ofList (Percent.encode [] cs)), p.query, p.fragment⟩

/-- The address of a scheme and what follows its colon. -/
def ofScheme? (scheme : String) (rest : List Char) : Option Url :=
  let k := SchemeKind.ofScheme scheme
  let p := Parts.ofText k rest
  match k with
  | .network _ => ofAuthority? scheme k p (p.body.dropWhile k.isSlash)
  | .file => ofFile? p
  | .other => ofOther? scheme p

/-- The absolute address that a text means. -/
def parse? (s : String) : Option Url :=
  (scheme? (cleaned s.toList)).bind fun (scheme, rest) => ofScheme? scheme rest

/-! ### Addresses on a page -/

/-- The segments of the path of an address but for the last one, the last one first. -/
def folder (u : Url) : List String :=
  match u.path with
  | .segments ss => ss.reverse.tail
  | .plain _ => []

/-- What follows two slashes at the front. Backslashes may take their place, and then there may be
more of them. -/
def afterSlashes? (isSlash : Char → Bool) (cs : List Char) : Option (List Char) :=
  match cs with
  | '/' :: '/' :: rest => some rest
  | a :: b :: rest => if isSlash a && isSlash b then some (rest.dropWhile isSlash) else none
  | _ => none

/-- The address that a text without a scheme means on a page. -/
def relative? (base : Url) (cs : List Char) : Option Url :=
  let k := SchemeKind.ofScheme base.scheme
  let p := Parts.ofText k cs
  match afterSlashes? k.isSlash p.body, p.body with
  | some rest, _ => ofAuthority? base.scheme k p rest
  | none, [] => some { base with query := p.query <|> base.query, fragment := p.fragment }
  | none, c :: rest =>
    let path :=
      if k.isSlash c then Path.walk [] (Path.split k.isSlash rest)
      else Path.walk base.folder (Path.split k.isSlash (c :: rest))
    some { base with path := .segments path, query := p.query, fragment := p.fragment }

/-- The address that a text means on a page of the web. Its scheme may be left out, or be followed
by fewer than two slashes if it is that of the page. -/
def join? (base : Url) (s : String) : Option Url :=
  let cs := cleaned s.toList
  match scheme? cs with
  | none => relative? base cs
  | some (scheme, rest) =>
    let k := SchemeKind.ofScheme scheme
    if scheme = base.scheme ∧ (rest.takeWhile k.isSlash).length < 2 then relative? base rest
    else ofScheme? scheme rest

end ModerationGateway.Url
