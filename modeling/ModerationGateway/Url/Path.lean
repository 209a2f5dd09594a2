import ModerationGateway.Text.Split
import ModerationGateway.Url.Percent

/-!
# Paths

* `Path`: the segments of a path, or a text that is no path;
* `Path.text`: how a path is written;
* `Path.walk`: the segments that are left when dots are resolved. One dot stays where it is and
  two go up, but never past a drive letter;
* `Path.ofText`: the path of a text with slashes;
* `Path.fileSegments`, `Path.ofSegments`: the segments of a path to a file, and the path of them.
-/

namespace ModerationGateway.Url

/-- What is asked for on a host. -/
inductive Path where
  /-- A slash and a segment each, perhaps none at all. -/
  | segments (segments : List String)
  /-- A text without a slash in front. -/
  | plain (text : String)
  deriving DecidableEq, Repr

namespace Path

/-- How a path is written. -/
def text : Path → String
  | segments ss => String.join (ss.map ("/" ++ ·))
  | plain s => s

/-- What a fragment cannot hold. -/
def fragmentMarks : List Char := [' ', '"', '<', '>', Char.ofNat 0x60]

/-- What a path cannot hold. -/
def pathMarks : List Char := fragmentMarks ++ ['#', '?', '\x7b', '\x7d']

/-- One step up, written with dots. -/
def isUp (segment : String) : Bool := ["..", ".%2e", "%2e.", "%2e%2e"].contains segment.toLower

/-- No step. -/
def isHere (segment : String) : Bool := [".", "%2e"].contains segment.toLower

/-- The letter of a drive with its mark. -/
def isDrive (segment : List Char) : Bool :=
  match segment with
  | [letter, mark] => letter.isAlpha && (mark == ':' || mark == '|')
  | _ => false

/-- The letter of a drive with a colon as its mark. -/
def driveText (segment : String) : String := String.ofList (segment.toList.take 1 ++ [':'])

/-- One step up from some segments, the last one first. -/
def up (before : List String) : List String :=
  match before with
  | [] => []
  | last :: rest => if isDrive last.toList then before else rest

/-- Go on along some segments after others, the last one first. Dots at the end leave a slash. -/
def walk (before : List String) : List String → List String
  | [] => before.reverse
  | segment :: rest =>
    let ending (before : List String) := if rest.isEmpty then "" :: before else before
    if isUp segment then walk (ending (up before)) rest
    else if isHere segment then walk (ending before) rest
    else walk (segment :: before) rest

/-- The segments of a text, as they are written. -/
def split (isSlash : Char → Bool) (cs : List Char) : List String :=
  (Text.splitAt isSlash cs).map fun s => String.ofList (Percent.encode pathMarks s)

/-- A text without the slash in front. -/
def withoutSlash (isSlash : Char → Bool) : List Char → List Char
  | [] => []
  | c :: rest => if isSlash c then rest else c :: rest

/-- The path of a text with slashes. -/
def ofText (isSlash : Char → Bool) (cs : List Char) : Path :=
  segments (walk [] (split isSlash (withoutSlash isSlash cs)))

/-- The segments of a path to a file. A drive comes first, with a colon as its mark. -/
def fileSegments (isSlash : Char → Bool) (cs : List Char) : List String :=
  match walk [] (split isSlash (withoutSlash isSlash cs)) with
  | first :: rest => (if isDrive first.toList then driveText first else first) :: rest
  | [] => []

/-- The path of segments, empty ones in front left out. -/
def ofSegments (ss : List String) : Path :=
  match ss.dropWhile String.isEmpty with
  | [] => segments [""]
  | ss => segments ss

example : walk [] ["a", "..", "b c", "."] = ["b c", ""] := by decide +kernel
example : walk [] ["C:", "..", "x"] = ["C:", "x"] := by decide +kernel

end Path

end ModerationGateway.Url
