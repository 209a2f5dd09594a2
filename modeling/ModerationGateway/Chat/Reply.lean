import ModerationGateway.Json.Reader
import ModerationGateway.Text.Blank

/-!
# What a chat completion says

An answer comes in one piece, as a JSON document, or as a stream of event lines, each carrying a
JSON document with the next few characters.

* `eventData?`: the payload of an event line;
* `delta?`: the text that an event line adds to the answer;
* `messageContent?`: the text of an answer that came in one piece.
-/

namespace ModerationGateway.Chat

open ModerationGateway.Text

/-- What the payload of an event line is marked with. -/
def dataMark : List Char := ['d', 'a', 't', 'a', ':']

/-- The payload that says that the stream is over. -/
def doneMark : List Char := ['[', 'D', 'O', 'N', 'E', ']']

/-- What follows a mark in front of a text. -/
def afterMark? (mark cs : List Char) : Option (List Char) :=
  if mark.isPrefixOf cs then some (cs.drop mark.length) else none

/-- The payload of an event line that carries one. -/
def eventData? (line : List Char) : Option (List Char) :=
  match afterMark? dataMark (trim line) with
  | none => none
  | some rest =>
    let payload := trim rest
    if payload.isEmpty ∨ payload = doneMark then none else some payload

/-- The text of a part of the first choice. -/
def choiceText? (part : String) (j : Json) : Option String := do
  let choices ← j.member? "choices"
  let choice ← choices.first?
  let body ← choice.member? part
  let content ← body.member? "content"
  content.string?

/-- The text that an event line adds, if it adds any. -/
def delta? (line : String) : Option String := do
  let payload ← eventData? line.toList
  choiceText? "delta" (← Json.parse? payload)

/-- The text of an answer in one piece, if it has one. -/
def messageContent? (body : Bytes) : Option String := do
  choiceText? "message" (← Json.ofBytes? body)

end ModerationGateway.Chat
