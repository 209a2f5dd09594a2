import ModerationGateway.Cli.Arguments

/-!
# Help pages

* `Page`: what a command does, how it is called, its operand and its options;
* `Page.text`: the page, with the purposes in one column.
-/

namespace ModerationGateway.Cli

/-- What a help page says. -/
structure Page where
  about : String
  usage : String
  /-- Sections of entries, each with a name and a purpose. -/
  sections : List (String × List (String × String))

/-- How an option is shown. The letter has a place of its own. -/
def Flag.shown (f : Flag) : String :=
  (match f.letter with
    | some c => "-" ++ String.singleton c ++ ", "
    | none => "    ") ++ "--" ++ f.name ++
  (match f.value with
    | some v => " <" ++ v.name ++ ">"
    | none => "")

/-- The option that asks for the page. -/
def helpFlag : Flag := ⟨"help", some 'h', none, "Print help"⟩

/-- The entries of some options. -/
def flagEntries (flags : List Flag) : List (String × String) :=
  flags.map fun f => (f.shown, f.purpose)

/-- An entry, its purpose in a column of its own. -/
def entryLine (width : Nat) (entry : String × String) : String :=
  let blanks := String.ofList (List.replicate (width - entry.1.length) ' ')
  "  " ++ entry.1 ++ blanks ++ "  " ++ entry.2 ++ "\n"

/-- A section of a page. -/
def sectionText (s : String × List (String × String)) : String :=
  let width := (s.2.map (·.1.length)).foldl max 0
  "\n" ++ s.1 ++ ":\n" ++ String.join (s.2.map (entryLine width))

/-- The text of a page. -/
def Page.text (p : Page) : String :=
  p.about ++ "\n\nUsage: " ++ p.usage ++ "\n" ++ String.join (p.sections.map sectionText)

end ModerationGateway.Cli
