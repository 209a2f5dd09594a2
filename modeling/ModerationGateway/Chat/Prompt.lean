import ModerationGateway.Json.Reader

/-!
# What a chat request asks

* `messageParts`: the texts of one message, which is a string or a list of items;
* `parts`: the texts of a request body, in order;
* `prompt`: the parts with a line feed between neighbours, as they are shown to a checker.

A body that is no chat request is its own only part.
-/

namespace ModerationGateway.Chat

/-- The texts of the content of a message. -/
def messageParts (message : Json) : List String :=
  match message.member? "content" with
  | some (.string text) => [text]
  | some (.array items) => items.filterMap fun item => (item.member? "text").bind Json.string?
  | _ => []

/-- The texts of a request body. -/
def parts (body : Bytes) : List String :=
  match Json.ofBytes? body with
  | none => [Utf8.textLossy body]
  | some j =>
    match (j.member? "messages").bind Json.array? with
    | some messages => messages.flatMap messageParts
    | none =>
      match (j.member? "prompt").bind Json.string? with
      | some prompt => [prompt]
      | none => [Utf8.textLossy body]

/-- The parts of a body, one below the other. -/
def prompt (body : Bytes) : String := "\n".intercalate (parts body)

end ModerationGateway.Chat
