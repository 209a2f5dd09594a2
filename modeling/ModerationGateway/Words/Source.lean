import ModerationGateway.Fault
import ModerationGateway.Files
import ModerationGateway.Text.Occurs
import ModerationGateway.Words.WordList

/-!
# Where word lists come from

* `WordSource`: lists given directly, or a directory with one file a list;
* `WordSource.load`: the words of a named list, or why there are none.

In a directory the list `name` is the file `name.txt`. A name that could leave the directory is
refused before any file is touched.
-/

namespace ModerationGateway.Words

/-- Word lists by name. -/
inductive WordSource where
  /-- Lists given by their words. -/
  | lists (entries : List (String × List String))
  /-- The files of a directory. -/
  | directory (path : String) (files : Files)
  deriving Repr

namespace WordSource

/-- A list name that stays inside the directory. -/
def isSafeName (name : String) : Bool :=
  !name.isEmpty && !name.toList.any (fun c => c == '/' || c == '\\') &&
    !Text.contains name ".."

/-- The words of a named list. -/
def load (source : WordSource) (name : String) : Except Fault (List String) :=
  match source with
  | lists entries =>
    match entries.lookup name with
    | some words => .ok words
    | none => .error (.wordList name "unknown word source")
  | directory path files =>
    if isSafeName name then
      let fileName := name ++ ".txt"
      match files.read fileName with
      | .ok content => .ok (parseWordList content)
      | .error reason =>
        .error (.wordList name ("failed to read " ++ path ++ "/" ++ fileName ++ ": " ++ reason))
    else .error (.wordList name "invalid source name")

end WordSource

end ModerationGateway.Words
