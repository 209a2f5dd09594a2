import ModerationGateway.Text.Split
import ModerationGateway.Text.Utf8

/-!
# Files

A directory as the files in it, by path. Paths are taken relative to it. The directories above it
and the root stand for themselves.

* `Place`, `Files.locate`: what a path leads to;
* `Files.read`, `Files.write`: the content of a file, and a file with other content, or the
  system's reason why there is none.
-/

namespace ModerationGateway

/-- The files of a directory, by the names on the way to them. -/
abbrev Files := List (List String × Bytes)

/-- What a path leads to. -/
inductive Place where
  | file (path : List String) (content : Bytes)
  | directory
  /-- Nothing, in a directory that exists. -/
  | vacant (path : List String)
  | error (reason : String)
  deriving DecidableEq, Repr

namespace Files

/-- The system's reasons. -/
def missing : String := "No such file or directory (os error 2)"

/-- A file stands where a directory is needed. -/
def notDirectory : String := "Not a directory (os error 20)"

/-- A directory stands where a file is needed. -/
def isDirectory : String := "Is a directory (os error 21)"

/-- A name on the way is too long, or the whole path. -/
def nameTooLong : String := "File name too long (os error 36)"

/-- The octets of a file are no text. -/
def notText : String := "stream did not contain valid UTF-8"

/-- The longest name in bytes. -/
def longestName : Nat := 255

/-- The longest path in bytes. -/
def longestPath : Nat := 4095

/-- The names of a path with slashes. -/
def names (path : String) : List String :=
  (Text.splitAt (· == '/') path.toList).map String.ofList

/-- The name of the root. -/
def root : String := "/"

/-- Where a path starts. -/
def startOf (path : String) : List String := if path.startsWith "/" then [root] else []

/-- The files given by such paths. -/
def ofPaths (entries : List (String × Bytes)) : Files :=
  entries.map fun (path, content) => (names path, content)

/-- Some file lies below a path. -/
def hasBelow (files : Files) (path : List String) : Bool :=
  path.isEmpty || files.any fun f => path.length < f.1.length && path.isPrefixOf f.1

/-- The directory above one. Nothing is above the root. -/
def above (here : List String) : List String :=
  if here = [root] then here
  else if here.all (· == "..") then here ++ [".."]
  else here.dropLast

/-- Go on from a directory along some names. -/
def walk (files : Files) (here : List String) : List String → Place
  | [] => .directory
  | name :: rest =>
    if name = "" ∨ name = "." then walk files here rest
    else if name = ".." then walk files (above here) rest
    else if longestName < name.utf8ByteSize then .error nameTooLong
    else
      let path := here ++ [name]
      match files.lookup path with
      | some content => if rest.isEmpty then .file path content else .error notDirectory
      | none =>
        if hasBelow files path then walk files path rest
        else if rest.isEmpty then .vacant path
        else .error missing

/-- What a path leads to. -/
def locate (files : Files) (path : String) : Place :=
  if path.toList.contains '\x00' then .error "file name contained an unexpected NUL byte"
  else if longestPath < path.utf8ByteSize then .error nameTooLong
  else if path.isEmpty then .error missing
  else walk files (startOf path) (names path)

/-- The text of a file. -/
def read (files : Files) (path : String) : Except String String :=
  match files.locate path with
  | .file _ content =>
    match Utf8.text? content with
    | none => .error notText
    | some text => .ok text
  | .directory => .error isDirectory
  | .vacant _ => .error missing
  | .error reason => .error reason

/-- The path without the slashes at its end. The root keeps its own. -/
def withoutSlash (path : String) : String :=
  match path.toList.reverse.dropWhile (· == '/') with
  | [] => path
  | cs => String.ofList cs.reverse

/-- Set the content of a file, which need not exist. A slash at the end of its path stands for a
directory. -/
def write (files : Files) (path : String) (content : Bytes) : Except String Files :=
  match files.locate (withoutSlash path) with
  | .file found _ =>
    if path.endsWith "/" then .error notDirectory
    else .ok ((found, content) :: files.filter fun f => f.1 != found)
  | .vacant found =>
    if path.endsWith "/" then .error isDirectory else .ok ((found, content) :: files)
  | .directory => .error isDirectory
  | .error reason => .error reason

example : (read [(["a"], [120])] "./a").toOption = some "x" := by decide +kernel
example : locate [(["a"], [120])] "b" = .vacant ["b"] := by decide +kernel
example : locate [(["a"], [120])] "a/b" = .error notDirectory := by decide +kernel
example : locate [(["a", "b"], [120])] "a/" = .directory := by decide +kernel
example : locate [] "../.." = .directory := by decide +kernel
example : locate [] "/a" = .vacant [root, "a"] := by decide +kernel

end Files

end ModerationGateway
