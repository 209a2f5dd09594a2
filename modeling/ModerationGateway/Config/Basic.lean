import ModerationGateway.Config.Rule

/-!
# Configuration

* `ProxySettings`, `Route`, `Config`: where requests go, which rule a path has, and the whole;
* `Config.check`: rule names are distinct, rules can be worked with, routes name a rule;
* `Config.rule?`: the rule of a name;
* `Config.override`: settings from the environment, which win over those of a file;
* `toJson`, `ofJson?`: the written form.
-/

namespace ModerationGateway

/-- Where the gateway listens and where it forwards to. -/
structure ProxySettings where
  /-- The address that requests are forwarded to. -/
  backend : String
  /-- The socket number to listen on. -/
  socket : UInt16
  host : String
  timeoutSecs : UInt64
  verbose : Bool
  /-- The largest request body, in bytes. -/
  maxBodySize : UInt64
  /-- The key that is sent along where a client sends none. -/
  apiKey : Option String
  deriving DecidableEq, Repr

namespace ProxySettings

/-- The defaults. -/
def standard : ProxySettings :=
  { backend := "https://api.openai.com"
    socket := 8080
    host := "127.0.0.1"
    timeoutSecs := 60
    verbose := false
    maxBodySize := 10485760
    apiKey := none }

/-- The address to listen on. -/
def listenAddress (p : ProxySettings) : String := p.host ++ ":" ++ decimalText p.socket.toNat

/-- The written form. -/
def toJson (p : ProxySettings) : Json :=
  .object [("upstream", .string p.backend), ("port", .ofNat p.socket.toNat),
    ("host", .string p.host), ("timeout_secs", .ofNat p.timeoutSecs.toNat),
    ("verbose", .bool p.verbose), ("max_body_size", .ofNat p.maxBodySize.toNat),
    ("api_key", .ofOption (p.apiKey.map Json.string))]

/-- The names of the fields, in order. -/
def fieldNames : List String :=
  ["upstream", "port", "host", "timeout_secs", "verbose", "max_body_size", "api_key"]

/-- The settings of a document. -/
def ofJson? (dialect : Dialect) (j : Json) : Option ProxySettings := do
  let r ← j.record? dialect fieldNames
  some {
    backend := ← r.default? "upstream" Json.text? standard.backend
    socket := ← r.default? "port" Json.natural16? standard.socket
    host := ← r.default? "host" Json.text? standard.host
    timeoutSecs := ← r.default? "timeout_secs" Json.natural64? standard.timeoutSecs
    verbose := ← r.default? "verbose" Json.flag? standard.verbose
    maxBodySize := ← r.default? "max_body_size" Json.natural64? standard.maxBodySize
    apiKey := ← r.default? "api_key" (Json.maybe? Json.text?) standard.apiKey }

end ProxySettings

/-- The rule of a path. -/
structure Route where
  path : String
  rule : String
  deriving DecidableEq, Repr

namespace Route

/-- The written form. -/
def toJson (r : Route) : Json := .object [("path", .string r.path), ("rule", .string r.rule)]

/-- The names of the fields, in order. -/
def fieldNames : List String := ["path", "rule"]

/-- The route of a document. -/
def ofJson? (dialect : Dialect) (j : Json) : Option Route := do
  let r ← j.record? dialect fieldNames
  some { path := ← r.required? "path" Json.text?, rule := ← r.required? "rule" Json.text? }

end Route

/-- The whole configuration. -/
structure Config where
  proxy : ProxySettings
  /-- The directory of the word lists. -/
  wordsDir : String
  routes : List Route
  rules : List Rule
  deriving DecidableEq, Repr

namespace Config

/-- The configuration without routes and rules. -/
def standard (wordsDir : String) : Config := ⟨.standard, wordsDir, [], []⟩

/-- The first rule of a name. -/
def rule? (c : Config) (id : String) : Option Rule := c.rules.find? fun r => r.id == id

/-- The rules are distinct from those seen before and from each other, and each can be worked
with. -/
def checkRules : List String → List Rule → Except Fault Unit
  | _, [] => .ok ()
  | seen, r :: rules =>
    if seen.contains r.id then .error (.config ("duplicate rule id '" ++ r.id ++ "'"))
    else
      match r.check with
      | .error f => .error f
      | .ok () => checkRules (r.id :: seen) rules

/-- Every route names one of the rules. -/
def checkRoutes (ids : List String) : List Route → Except Fault Unit
  | [] => .ok ()
  | r :: routes =>
    if ids.contains r.rule then checkRoutes ids routes
    else .error (.config ("route '" ++ r.path ++ "' references unknown rule '" ++ r.rule ++ "'"))

/-- The configuration can be worked with. -/
def check (c : Config) : Except Fault Unit := do
  checkRules [] c.rules
  checkRoutes (c.rules.map (·.id)) c.routes

/-- The written form. -/
def toJson (c : Config) : Json :=
  .object [("proxy", c.proxy.toJson), ("words", .object [("dir", .string c.wordsDir)]),
    ("route", .array (c.routes.map Route.toJson)), ("rule", .array (c.rules.map Rule.toJson))]

/-- The names of the fields, in order. -/
def fieldNames : List String := ["proxy", "words", "route", "rule"]

/-- The directory of the word lists of a document. -/
def wordsDirOfJson? (dialect : Dialect) (j : Json) : Option String := do
  (← j.record? dialect ["dir"]).required? "dir" Json.text?

/-- The configuration of a document, given the directory of word lists where it names none. -/
def ofJson? (dialect : Dialect) (wordsDir : String) (j : Json) : Option Config := do
  let r ← j.record? dialect fieldNames
  some {
    proxy := ← r.default? "proxy" (ProxySettings.ofJson? dialect) .standard
    wordsDir := ← r.default? "words" (wordsDirOfJson? dialect) wordsDir
    routes := ← r.default? "route" (Json.listOf? (Route.ofJson? dialect)) []
    rules := ← r.default? "rule" (Json.listOf? (Rule.ofJson? dialect)) [] }

/-! ### The environment -/

/-- Read a decimal number, a plus sign allowed in front. -/
def decimal? (s : String) : Option Nat :=
  let digits := match s.toList with
    | '+' :: rest => rest
    | cs => cs
  if digits.isEmpty ∨ !digits.all Char.isDigit then none
  else some (digits.foldl (fun n c => n * 10 + (c.toNat - 48)) 0)

/-- A socket number. -/
def socket? (s : String) : Option UInt16 :=
  (decimal? s).bind fun n => if n < UInt16.size then some (UInt16.ofNat n) else none

/-- Settings from the environment win. A socket number that cannot be read is ignored. -/
def override (env : List (String × String)) (c : Config) : Config :=
  { c with
    proxy :=
      { c.proxy with
        backend := (env.lookup "CONTENTGUARD_UPSTREAM").getD c.proxy.backend
        socket := ((env.lookup "CONTENTGUARD_PORT").bind socket?).getD c.proxy.socket
        host := (env.lookup "CONTENTGUARD_HOST").getD c.proxy.host }
    wordsDir := (env.lookup "CONTENTGUARD_WORDS_DIR").getD c.wordsDir }

end Config

end ModerationGateway
