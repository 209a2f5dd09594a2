import ModerationGateway.Cli.Listener
import ModerationGateway.Config.Basic
import ModerationGateway.Files
import ModerationGateway.Http.Proxy

/-!
# What a command finds around it

A command reads and writes files, reads standard input, talks to peers and takes an address to
serve at. It does so through a `Host`, in whatever monad the host works in; each operation gives
what was asked for or the system's reason why not.

* `Host`: the operations;
* `Environment`, `settingsDir?`: the environment, and where it says that settings are kept;
* `Surroundings`, `Surroundings.host`: a host whose files, input, other listeners and peers are a
  value.
-/

namespace ModerationGateway.Cli

/-- The variables of the environment. -/
abbrev Environment := List (String × String)

namespace Environment

/-- The variables that the program looks at. -/
def names : List String :=
  ["XDG_CONFIG_HOME", "HOME", "OPENAI_API_KEY", "CONTENTGUARD_ACCESS_KEY",
    "CONTENTGUARD_ACCESS_TOKEN", "CONTENTGUARD_UPSTREAM", "CONTENTGUARD_PORT",
    "CONTENTGUARD_HOST", "CONTENTGUARD_WORDS_DIR"] ++ Http.Proxies.variableNames

/-- A path below a directory. -/
def below (dir name : String) : String :=
  if dir.endsWith "/" then dir ++ name else dir ++ "/" ++ name

/-- Where the settings of the user are kept: in a directory that is named by an absolute path, or
below the user's home. -/
def settingsDir? (env : Environment) : Option String :=
  match (env.lookup "XDG_CONFIG_HOME").filter (·.startsWith "/") with
  | some dir => some dir
  | none => ((env.lookup "HOME").filter (!·.isEmpty)).map fun home => below home ".config"

/-- The program's own directory there. -/
def ownDir? (env : Environment) : Option String :=
  env.settingsDir?.map fun dir => below dir "contentguard"

/-- The configuration file that is read where none is named, if it exists. -/
def configPath? (env : Environment) : Option String :=
  env.ownDir?.map fun dir => below dir "contentguard.toml"

/-- Where word lists are kept. -/
def wordsDir (env : Environment) : String :=
  match env.ownDir? with
  | some dir => below dir "words"
  | none => "words"

end Environment

/-- The operations of a host with peers of a world `σ`. -/
structure Host (m : Type → Type) (σ : Type) where
  /-- The text of a file. -/
  read : String → ExceptT String m String
  /-- Set the text of a file. -/
  write : String → String → ExceptT String m Unit
  /-- There is something at a path. -/
  holds : String → m Bool
  /-- All of standard input. -/
  input : ExceptT String m String
  /-- How the peers answer a request. -/
  exchange : Http.Exchange σ
  /-- Talk to the peers. -/
  converse : {α : Type} → (σ → α × σ) → m α
  /-- Take an address and serve until the listener fails. -/
  serve : Config → ExceptT String m Unit

/-- Files, standard input, the places where others serve, and the peers. -/
structure Surroundings (σ : Type) where
  files : Files
  input : Bytes
  listeners : List Listener
  peers : σ

namespace Surroundings

variable {σ : Type}

/-- There is something at a path. -/
def holds (s : Surroundings σ) (path : String) : Bool :=
  match s.files.locate path with
  | .file _ _ | .directory => true
  | .vacant _ | .error _ => false

/-- A host of these surroundings. Nobody comes to be served, so serving ends at once. -/
def host (exchange : Http.Exchange σ) : Host (StateM (Surroundings σ)) σ where
  read path := ExceptT.mk fun s => (s.files.read path, s)
  write path text := ExceptT.mk fun s =>
    match s.files.write path (Utf8.ofText text) with
    | .ok files => (.ok (), { s with files })
    | .error reason => (.error reason, s)
  holds path := fun s => (s.holds path, s)
  input := ExceptT.mk fun s =>
    (match Utf8.text? s.input with
      | some text => .ok text
      | none => .error Files.notText, { s with input := [] })
  exchange := exchange
  converse talk := fun s =>
    let (answer, peers) := talk s.peers
    (answer, { s with peers })
  serve config := ExceptT.mk fun s =>
    (match Listener.complaint? s.listeners config.proxy.host config.proxy.socket with
      | some reason => .error reason
      | none => .ok (), s)

end Surroundings

end ModerationGateway.Cli
