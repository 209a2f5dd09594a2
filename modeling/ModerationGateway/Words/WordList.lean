import ModerationGateway.Text.Blank
import ModerationGateway.Text.Split

/-!
# Word lists

A word list is a text with one word a line. Blanks around a word do not count; lines without a
word and lines that start with `#` are comments.

* `parseWordList`: the words of such a text, in order.
-/

namespace ModerationGateway.Words

open ModerationGateway.Text

/-- A trimmed line that holds a word. -/
def holdsWord (line : List Char) : Bool :=
  match line with
  | [] => false
  | c :: _ => c != '#'

/-- The words of a text, on characters. -/
def wordLines (cs : List Char) : List (List Char) := ((lines cs).map trim).filter holdsWord

/-- The words of a text. -/
def parseWordList (content : String) : List String := (wordLines content.toList).map String.ofList

end ModerationGateway.Words
