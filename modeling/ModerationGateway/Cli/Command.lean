import ModerationGateway.Cli.Help
import ModerationGateway.Gateway.Router
import ModerationGateway.Moderation.Verdict

/-!
# Commands

* `Command`: what the program is asked to do;
* `Topic`: the commands by name, with their options and help pages;
* `Invocation`: a command, a page, the version, or misuse;
* `readInvocation`: what the arguments of the program ask for.
-/

namespace ModerationGateway.Cli

open ModerationGateway.Moderation

/-- A text from the command line, from a file, or from standard input. -/
inductive Input where
  | given (text : String)
  | file (path : String)
  | standard
  deriving DecidableEq, Repr

/-- What `serve` is asked to do. -/
structure ServeOptions where
  config : Option String
  socket : Option UInt16
  host : Option String
  backend : Option String
  apiKey : Option String
  deriving DecidableEq, Repr

/-- What `scan` is asked to do. -/
structure ScanOptions where
  input : Input
  words : String
  all : Bool
  json : Bool
  deriving DecidableEq, Repr

/-- What `check` is asked to do. -/
structure CheckOptions where
  input : Input
  vendor : String
  url : String
  accessKey : Option String
  accessToken : Option String
  phase : Phase
  timeoutMs : UInt64
  deriving DecidableEq, Repr

/-- What the program is asked to do. -/
inductive Command where
  | serve (options : ServeOptions)
  | scan (options : ScanOptions)
  | check (options : CheckOptions)
  | config (output : Option String)
  deriving DecidableEq, Repr

/-! ### Options -/

/-- Any value. -/
def anyValue (_ : String) : Bool := true

/-- The path of a file. -/
def isPath (s : String) : Bool := !s.isEmpty

/-- The phases by name. -/
def phases : List (String × Phase) := [("prompt", .prompt), ("content", .content)]

/-- The options of `serve`. -/
def serveFlags : List Flag :=
  [⟨"config", some 'c', some ⟨"CONFIG", isPath⟩,
      "Config file (default: <config dir>/contentguard/contentguard.toml)"⟩,
    ⟨"port", some 'p', some ⟨"PORT", isSignedUpTo 65535⟩, "Port to listen on"⟩,
    ⟨"host", none, some ⟨"HOST", anyValue⟩, "Host to bind to"⟩,
    ⟨"upstream", some 'u', some ⟨"UPSTREAM", anyValue⟩, "Upstream API URL"⟩,
    ⟨"api-key", none, some ⟨"API_KEY", anyValue⟩,
      "API key injected when clients send none (or OPENAI_API_KEY env)"⟩,
    ⟨"log-json", none, none, "Emit logs as JSON lines"⟩,
    ⟨"verbose", some 'v', none, "Enable verbose logging"⟩]

/-- The options of `scan`. -/
def scanFlags : List Flag :=
  [⟨"file", some 'f', some ⟨"FILE", isPath⟩, "Input file path"⟩,
    ⟨"words", some 'w', some ⟨"WORDS", isPath⟩, "Word list, one keyword per line"⟩,
    ⟨"all", none, none, "Report every keyword ending at a position, not only the longest"⟩,
    ⟨"json", none, none, "Output as JSON"⟩]

/-- The options of `check`. -/
def checkFlags : List Flag :=
  [⟨"file", some 'f', some ⟨"FILE", isPath⟩, "Input file path"⟩,
    ⟨"vendor", none, some ⟨"VENDOR", anyValue⟩, "Vendor name [default: zkrj]"⟩,
    ⟨"url", none, some ⟨"URL", anyValue⟩, "Vendor endpoint"⟩,
    ⟨"access-key", none, some ⟨"ACCESS_KEY", anyValue⟩,
      "Vendor access key (or CONTENTGUARD_ACCESS_KEY env)"⟩,
    ⟨"access-token", none, some ⟨"ACCESS_TOKEN", anyValue⟩,
      "Vendor access token (or CONTENTGUARD_ACCESS_TOKEN env)"⟩,
    ⟨"phase", none, some ⟨"PHASE", fun s => (phases.lookup s).isSome⟩,
      "Which side of the exchange the text is [default: content] " ++
        "[possible values: prompt, content]"⟩,
    ⟨"timeout-ms", none, some ⟨"TIMEOUT_MS", isNumberUpTo (UInt64.size - 1)⟩,
      "Deadline in milliseconds [default: 1800]"⟩,
    ⟨"verbose", some 'v', none, "Enable verbose logging"⟩]

/-- The options of `config`. -/
def configFlags : List Flag :=
  [⟨"output", some 'o', some ⟨"OUTPUT", isPath⟩, "Output file path (default: stdout)"⟩]

/-! ### Commands by name -/

/-- The commands by name. -/
inductive Topic where
  | serve
  | scan
  | check
  | config
  deriving DecidableEq, Repr

namespace Topic

/-- All commands. -/
def all : List Topic := [.serve, .scan, .check, .config]

/-- The name of a command. -/
def name : Topic → String
  | serve => "serve"
  | scan => "scan"
  | check => "check"
  | config => "config"

/-- What a command does. -/
def purpose : Topic → String
  | serve => "Start the moderating gateway"
  | scan => "Match text against a sensitive-word list"
  | check => "Run one moderation vendor check"
  | config => "Print an example configuration"

/-- The options of a command. -/
def flags : Topic → List Flag
  | serve => serveFlags
  | scan => scanFlags
  | check => checkFlags
  | config => configFlags

/-- How many operands a command has. -/
def operandLimit : Topic → Nat
  | scan | check => 1
  | serve | config => 0

/-- How a command is called, after the name of the program. -/
def usage : Topic → String
  | serve => "serve [OPTIONS]"
  | scan => "scan [OPTIONS] --words <WORDS> [INPUT]"
  | check => "check [OPTIONS] --url <URL> [INPUT]"
  | config => "config [OPTIONS]"

/-- The operand of a command on its page. -/
def operandSection : Topic → List (String × List (String × String))
  | scan => [("Arguments", [("[INPUT]", "Text to scan (or - for stdin)")])]
  | check => [("Arguments", [("[INPUT]", "Text to check (or - for stdin)")])]
  | serve | config => []

/-- The page of a command. -/
def page (t : Topic) : Page :=
  ⟨t.purpose, Gateway.programName ++ " " ++ t.usage,
    t.operandSection ++ [("Options", flagEntries (t.flags ++ [helpFlag]))]⟩

/-- The command of a name. -/
def ofName? (s : String) : Option Topic := all.find? (·.name == s)

end Topic

/-- What asking for help does. -/
def helpPurpose : String := "Print this message or the help of the given subcommand(s)"

/-- The page of asking for help. -/
def helpPage : Page :=
  ⟨helpPurpose, Gateway.programName ++ " help [COMMAND]...",
    [("Arguments", [("[COMMAND]...", "Print help for the subcommand(s)")])]⟩

/-- The page of the program. -/
def mainPage : Page :=
  ⟨"ContentGuard - Content-policy enforcement for LLM gateways",
    Gateway.programName ++ " <COMMAND>",
    [("Commands", Topic.all.map (fun t => (t.name, t.purpose)) ++
        [("help", helpPurpose)]),
      ("Options", flagEntries [helpFlag, ⟨"version", some 'V', none, "Print version"⟩])]⟩

/-! ### Reading -/

/-- The number of a text that is one up to some bound. -/
def numberOf (s : String) : Nat := ofDigits 10 (s.toList.filter Char.isDigit)

/-- Where the text of a command comes from. A file wins over an operand, and a hyphen is standard
input. -/
def inputOf (a : Arguments) : Input :=
  match a.value? "file", a.operands with
  | some path, _ => .file path
  | none, [] => .standard
  | none, s :: _ => if s = "-" then .standard else .given s

/-- The command of its arguments. Two options must be given. -/
def Topic.command? (t : Topic) (a : Arguments) : Option Command :=
  match t with
  | .serve =>
    some (.serve
      { config := a.value? "config"
        socket := (a.value? "port").map fun s => UInt16.ofNat (numberOf s)
        host := a.value? "host"
        backend := a.value? "upstream"
        apiKey := a.value? "api-key" })
  | .scan =>
    (a.value? "words").map fun words =>
      .scan ⟨inputOf a, words, a.has "all", a.has "json"⟩
  | .check =>
    (a.value? "url").map fun url =>
      .check
        { input := inputOf a
          vendor := (a.value? "vendor").getD "zkrj"
          url
          accessKey := a.value? "access-key"
          accessToken := a.value? "access-token"
          phase := ((a.value? "phase").bind fun s => phases.lookup s).getD .content
          timeoutMs := UInt64.ofNat (((a.value? "timeout-ms").map numberOf).getD 1800) }
  | .config => some (.config (a.value? "output"))

/-- What the arguments of the program ask for. -/
inductive Invocation where
  | run (command : Command)
  | help (page : Page)
  | version
  | misuse

/-- What the arguments after the name of a command ask for. -/
def Topic.invocation (t : Topic) (args : List String) : Invocation :=
  match readArguments t.flags t.operandLimit args with
  | .error .help => .help t.page
  | .error .misuse => .misuse
  | .ok a =>
    match t.command? a with
    | some command => .run command
    | none => .misuse

/-- The page of a topic, or of the program. -/
def helpInvocation : List String → Invocation
  | [] => .help mainPage
  | [s] =>
    match Topic.ofName? s with
    | some t => .help t.page
    | none => if s = "help" then .help helpPage else .misuse
  | _ => .misuse

/-- What the arguments of the program ask for. -/
def readInvocation : List String → Invocation
  | [] => .misuse
  | s :: rest =>
    match shapeOf s with
    | .operand =>
      if s = "help" then helpInvocation rest
      else
        match Topic.ofName? s with
        | some t => t.invocation rest
        | none => .misuse
    | .long _ =>
      if s = "--help" then .help mainPage else if s = "--version" then .version else .misuse
    | .short ('h' :: _) => .help mainPage
    | .short ('V' :: _) => .version
    | _ => .misuse

end ModerationGateway.Cli
