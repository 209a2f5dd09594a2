import ModerationGateway.Config.Basic
import ModerationGateway.Files
import ModerationGateway.Toml.Document

/-!
# Configuration files

* `Config.ofToml?`: the configuration of a TOML document;
* `Config.ofContent`: that of the content of a file, if it can be had, checked;
* `Config.ofFile`: that of a file.
-/

namespace ModerationGateway.Config

/-- The configuration of a TOML document. -/
def ofToml? (wordsDir content : String) : Option Config :=
  (Toml.ofText? content).bind (ofJson? .toml wordsDir)

/-- The configuration of the content of a file, or of the reason why there is none. It has been
checked. -/
def ofContent (wordsDir : String) : Except String String → Except Fault Config
  | .error reason => .error (.config ("Failed to read config file: " ++ reason))
  | .ok content =>
    match ofToml? wordsDir content with
    | none => .error (.config "Failed to parse config")
    | some c => c.check.map fun _ => c

/-- The configuration of a file. -/
def ofFile (wordsDir : String) (files : Files) (path : String) : Except Fault Config :=
  ofContent wordsDir (files.read path)

end ModerationGateway.Config
