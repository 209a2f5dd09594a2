import ModerationGateway.Cli.Command
import ModerationGateway.Cli.Host
import ModerationGateway.Config.Example
import ModerationGateway.Config.File
import ModerationGateway.Moderation.Gate
import ModerationGateway.Moderation.Vendor.Remote
import ModerationGateway.Words.Matcher
import ModerationGateway.Words.WordList

/-!
# What the commands do

* `Outcome`: what is left when a command has ended;
* `scan`, `check`, `serve`, `printConfig`: the commands, over any host. They give an outcome or
  the wording of a failure;
* `run`: what the program does for its arguments.
-/

namespace ModerationGateway.Cli

open ModerationGateway.Moderation ModerationGateway.Words

/-- What is left of a command: the exit code, the output, and what it complains of. -/
structure Outcome where
  exit : UInt8
  output : String
  complaint : String
  deriving DecidableEq, Repr

namespace Outcome

/-- All is well. -/
def done (output : String) : Outcome := ⟨0, output, ""⟩

/-- The command could not do its work. -/
def failed (reason : String) : Outcome := ⟨1, "", "Error: " ++ reason ++ "\n"⟩

/-- The arguments ask for nothing. -/
def misused : Outcome :=
  ⟨2, "", "error: the arguments are not understood\n\nUsage: " ++ mainPage.usage ++
    "\n\nFor more information, try '--help'.\n"⟩

end Outcome

/-! ### Scanning -/

/-- The hits of a scan as a document. -/
def scanDocument (size : Nat) (hits : List String) : Json :=
  .object [("hits", .array (hits.map .string)), ("keywords", .ofNat size)]

/-- The hits of a scan in words. -/
def scanReport (size : Nat) (hits : List String) : String :=
  if hits.isEmpty then "No sensitive words found (" ++ decimalText size ++ " keywords)\n"
  else
    "Found " ++ decimalText hits.length ++ " hit(s):\n" ++
      String.join (hits.map fun hit => "  - " ++ hit ++ "\n")

/-- The outcome of a scan. Hits show in the exit code. -/
def scanOutcome (o : ScanOptions) (words text : String) : Outcome :=
  let matcher := Matcher.ofWords (parseWordList words)
    (if o.all then .allPerPosition else .firstPerPosition)
  let hits := matcher.search text
  { exit := if hits.isEmpty then 0 else 2
    output :=
      if o.json then (scanDocument matcher.size hits).pretty ++ "\n"
      else scanReport matcher.size hits
    complaint := "" }

/-! ### Checking -/

/-- The settings of a check. What the command does not say is taken from the environment. -/
def CheckOptions.settings (o : CheckOptions) (env : Environment) : ContentSecurity :=
  { ContentSecurity.ofVendor o.vendor o.url with
    accessKey := (o.accessKey <|> env.lookup "CONTENTGUARD_ACCESS_KEY").getD ""
    accessToken := (o.accessToken <|> env.lookup "CONTENTGUARD_ACCESS_TOKEN").getD ""
    breaker := { BreakerSettings.standard with timeoutMs := o.timeoutMs } }

/-- The rule of the command line. -/
def commandRule (settings : ContentSecurity) : Rule := ⟨"cli", some settings, none⟩

/-- The verdict on a question, asked through a breaker of its own. -/
def verdictOn {σ : Type} (exchange : Http.Exchange σ) (settings : ContentSecurity) (q : Question)
    (peers : σ) : Except Fault Verdict × σ :=
  match settings.check with
  | .error fault => (.error fault, peers)
  | .ok () =>
    match Gate.ofRule (commandRule settings) (.vendorsOver exchange) ⟨0, .empty, peers⟩ with
    | .error fault => (.error fault, peers)
    | .ok (gate, w) =>
      let (verdict, w) := Gate.judgeOf gate w q
      (.ok verdict, w.peers)

/-! ### Serving -/

/-- What the command says wins over the configuration. -/
def ServeOptions.override (o : ServeOptions) (env : Environment) (c : Config) : Config :=
  { c with
    proxy :=
      { c.proxy with
        socket := o.socket.getD c.proxy.socket
        host := o.host.getD c.proxy.host
        backend := o.backend.getD c.proxy.backend
        apiKey := o.apiKey <|> env.lookup "OPENAI_API_KEY" <|> c.proxy.apiKey } }

/-- The address of a configuration cannot be taken. -/
def bindFault (c : Config) (reason : String) : Fault :=
  .server ("Failed to bind " ++ c.proxy.listenAddress ++ ": " ++ reason)

/-! ### Commands over a host -/

section

variable {m : Type → Type} {σ : Type} [Monad m]

/-- A command, which may end in the wording of a failure. -/
abbrev Attempt (m : Type → Type) := ExceptT String m

/-- A fault is reported in its own wording. -/
def reported {α : Type} (r : Except Fault α) : Attempt m α :=
  match r with
  | .ok a => pure a
  | .error fault => throw fault.message

/-- The text of an input. -/
def Host.textOf (host : Host m σ) : Input → Attempt m String
  | .given text => pure text
  | .file path => host.read path
  | .standard => host.input

/-- Look for the words of a list in a text. -/
def scan (host : Host m σ) (o : ScanOptions) : Attempt m Outcome := do
  let text ← host.textOf o.input
  let words ← host.read o.words
  return scanOutcome o words text

/-- Ask a vendor about a text. -/
def check (host : Host m σ) (env : Environment) (o : CheckOptions) : Attempt m Outcome := do
  let text ← host.textOf o.input
  let exchange := (Http.Proxies.ofVariables env).through host.exchange
  let answer ← ExceptT.lift (host.converse (verdictOn exchange (o.settings env) ⟨o.phase, text⟩))
  let verdict ← reported answer
  return .done (verdict.toJson.pretty ++ "\n")

/-- The configuration file to read: the one that is named, or the user's own if there is one. -/
def configFile? (host : Host m σ) (env : Environment) (o : ServeOptions) : m (Option String) :=
  match o.config, env.configPath? with
  | some path, _ => pure (some path)
  | none, some path => do return if ← host.holds path then some path else none
  | none, none => pure none

/-- The configuration to serve under. -/
def configOf (host : Host m σ) (env : Environment) (o : ServeOptions) :
    m (Except Fault Config) := do
  let c ← match ← configFile? host env o with
    | some path => Config.ofContent env.wordsDir <$> (host.read path).run
    | none => pure (.ok (Config.standard env.wordsDir))
  return c.map fun c => o.override env (c.override env)

/-- Start the gateway. -/
def serve (host : Host m σ) (env : Environment) (o : ServeOptions) : Attempt m Outcome := do
  let answer ← ExceptT.lift (configOf host env o)
  let c ← reported answer
  (host.serve c).adapt fun reason => (bindFault c reason).message
  return .done ""

/-- Show or store a configuration to start from. -/
def printConfig (host : Host m σ) : Option String → Attempt m Outcome
  | none => pure (.done (Config.exampleText ++ "\n"))
  | some path => do
    host.write path Config.exampleText
    return .done ""

/-- Carry out a command. -/
def Command.attempt (host : Host m σ) (env : Environment) : Command → Attempt m Outcome
  | .serve o => Cli.serve host env o
  | .scan o => Cli.scan host o
  | .check o => Cli.check host env o
  | .config output => printConfig host output

/-- What the program does for its arguments. -/
def run (host : Host m σ) (env : Environment) (args : List String) : m Outcome :=
  match readInvocation args with
  | .help page => pure (.done page.text)
  | .version => pure (.done (Gateway.programName ++ " " ++ Gateway.version ++ "\n"))
  | .misuse => pure .misused
  | .run command => do
    match ← (command.attempt host env).run with
    | .ok outcome => return outcome
    | .error reason => return .failed reason

end

end ModerationGateway.Cli
