import ModerationGateway.Breaker.Settings
import ModerationGateway.Words.Matcher

/-!
# Rules

A rule says how the traffic of a path is moderated: by a vendor's checker, by a list of words, by
both or by neither.

* `FailurePolicy`: what happens when the checker cannot answer;
* `ContentSecurity`, `SensitiveWords`, `Rule`: the two parts and the whole;
* `check`: the parts that a pipeline can work with;
* `toJson`, `ofJson?`: their written form.
-/

namespace ModerationGateway

open ModerationGateway.Words

namespace Words.MatchMode

/-- The written forms. -/
def names : List (String × MatchMode) :=
  [("first_per_position", .firstPerPosition), ("all_per_position", .allPerPosition)]

/-- The written form. -/
def toJson : MatchMode → Json
  | .firstPerPosition => .string "first_per_position"
  | .allPerPosition => .string "all_per_position"

/-- The mode of a document. -/
def ofJson? (dialect : Dialect) (j : Json) : Option MatchMode := j.choice? dialect names

end Words.MatchMode

/-- What happens to content that the checker could not judge. -/
inductive FailurePolicy where
  | failOpen
  | failClosed
  deriving DecidableEq, Repr

namespace FailurePolicy

/-- The written forms. -/
def names : List (String × FailurePolicy) :=
  [("fail_open", .failOpen), ("fail_closed", .failClosed)]

/-- The written form. -/
def toJson : FailurePolicy → Json
  | .failOpen => .string "fail_open"
  | .failClosed => .string "fail_closed"

/-- The policy of a document. -/
def ofJson? (dialect : Dialect) (j : Json) : Option FailurePolicy := j.choice? dialect names

end FailurePolicy

/-- Moderation by a vendor's checker. -/
structure ContentSecurity where
  vendor : String
  url : String
  accessKey : String
  accessToken : String
  appId : String
  eventId : String
  kind : String
  /-- How many frames are decided on together. -/
  batchSize : UInt64
  /-- How many characters the checker sees. -/
  windowSize : UInt64
  failurePolicy : FailurePolicy
  /-- The end of an answer is checked even if the window is not full. -/
  tailCheck : Bool
  breaker : BreakerSettings
  deriving DecidableEq, Repr

namespace ContentSecurity

/-- The vendor that is meant where none is named. -/
def defaultVendor : String := "zkrj"

/-- The batch size where none is given. -/
def defaultBatchSize : UInt64 := 10

/-- The window size where none is given. -/
def defaultWindowSize : UInt64 := 200

/-- A vendor at an address, with defaults for the rest. -/
def ofVendor (vendor url : String) : ContentSecurity :=
  { vendor, url
    accessKey := ""
    accessToken := ""
    appId := ""
    eventId := ""
    kind := ""
    batchSize := defaultBatchSize
    windowSize := defaultWindowSize
    failurePolicy := .failClosed
    tailCheck := false
    breaker := .standard }

/-- The settings can be worked with. -/
def check (c : ContentSecurity) : Except Fault Unit :=
  if c.batchSize.toNat = 0 then .error (.config "batch_size must be at least 1")
  else if c.windowSize.toNat = 0 then .error (.config "window_size must be at least 1")
  else c.breaker.check

/-- The written form. -/
def toJson (c : ContentSecurity) : Json :=
  .object [("vendor", .string c.vendor), ("url", .string c.url),
    ("access_key", .string c.accessKey), ("access_token", .string c.accessToken),
    ("app_id", .string c.appId), ("event_id", .string c.eventId), ("kind", .string c.kind),
    ("batch_size", .ofNat c.batchSize.toNat), ("window_size", .ofNat c.windowSize.toNat),
    ("failure_policy", c.failurePolicy.toJson), ("tail_check", .bool c.tailCheck),
    ("breaker", c.breaker.toJson)]

/-- The names of the fields, in order. -/
def fieldNames : List String :=
  ["vendor", "url", "access_key", "access_token", "app_id", "event_id", "kind", "batch_size",
    "window_size", "failure_policy", "tail_check", "breaker"]

/-- The kind may be written under either of two names, but not under both. -/
def kind? (r : Record) : Option String :=
  match r.lookup "kind", r.lookup "type" with
  | some _, some _ => none
  | some j, none => j.text?
  | none, some j => j.text?
  | none, none => some ""

/-- The settings of a document. -/
def ofJson? (dialect : Dialect) (j : Json) : Option ContentSecurity := do
  let r ← j.record? dialect fieldNames
  some {
    vendor := ← r.default? "vendor" Json.text? defaultVendor
    url := ← r.required? "url" Json.text?
    accessKey := ← r.default? "access_key" Json.text? ""
    accessToken := ← r.default? "access_token" Json.text? ""
    appId := ← r.default? "app_id" Json.text? ""
    eventId := ← r.default? "event_id" Json.text? ""
    kind := ← kind? r
    batchSize := ← r.default? "batch_size" Json.natural64? defaultBatchSize
    windowSize := ← r.default? "window_size" Json.natural64? defaultWindowSize
    failurePolicy := ← r.required? "failure_policy" (FailurePolicy.ofJson? dialect)
    tailCheck := ← r.default? "tail_check" Json.flag? false
    breaker := ← r.default? "breaker" (BreakerSettings.ofJson? dialect) .standard }

end ContentSecurity

/-- Screening by a list of words. -/
structure SensitiveWords where
  source : String
  version : String
  matchMode : MatchMode
  deriving DecidableEq, Repr

namespace SensitiveWords

/-- The written form. -/
def toJson (s : SensitiveWords) : Json :=
  .object [("source", .string s.source), ("version", .string s.version),
    ("match_mode", s.matchMode.toJson)]

/-- The names of the fields, in order. -/
def fieldNames : List String := ["source", "version", "match_mode"]

/-- The settings of a document. -/
def ofJson? (dialect : Dialect) (j : Json) : Option SensitiveWords := do
  let r ← j.record? dialect fieldNames
  some {
    source := ← r.required? "source" Json.text?
    version := ← r.default? "version" Json.text? "1"
    matchMode := ← r.default? "match_mode" (MatchMode.ofJson? dialect) .firstPerPosition }

end SensitiveWords

/-- How the traffic of a path is moderated. -/
structure Rule where
  id : String
  contentSecurity : Option ContentSecurity
  sensitiveWords : Option SensitiveWords
  deriving DecidableEq, Repr

namespace Rule

/-- A fault of a rule, named after it. -/
def fault (r : Rule) (message : String) : Fault := .config ("rule '" ++ r.id ++ "': " ++ message)

/-- The content security of a rule can be worked with. -/
def checkContentSecurity (r : Rule) : Except Fault Unit :=
  match r.contentSecurity with
  | none => .ok ()
  | some c =>
    match c.check with
    | .ok () => .ok ()
    | .error f => .error (r.fault f.message)

/-- The word list of a rule has a name. -/
def checkSensitiveWords (r : Rule) : Except Fault Unit :=
  match r.sensitiveWords with
  | none => .ok ()
  | some s =>
    if s.source.isEmpty then .error (r.fault "sensitive_words.source is empty") else .ok ()

/-- The rule can be worked with. -/
def check (r : Rule) : Except Fault Unit := do
  r.checkContentSecurity
  r.checkSensitiveWords

/-- The written form. -/
def toJson (r : Rule) : Json :=
  .object [("id", .string r.id),
    ("content_security", .ofOption (r.contentSecurity.map ContentSecurity.toJson)),
    ("sensitive_words", .ofOption (r.sensitiveWords.map SensitiveWords.toJson))]

/-- The names of the fields, in order. -/
def fieldNames : List String := ["id", "content_security", "sensitive_words"]

/-- The rule of a document. -/
def ofJson? (dialect : Dialect) (j : Json) : Option Rule := do
  let r ← j.record? dialect fieldNames
  some {
    id := ← r.required? "id" Json.text?
    contentSecurity :=
      ← r.default? "content_security" (Json.maybe? (ContentSecurity.ofJson? dialect)) none
    sensitiveWords :=
      ← r.default? "sensitive_words" (Json.maybe? (SensitiveWords.ofJson? dialect)) none }

end Rule

end ModerationGateway
