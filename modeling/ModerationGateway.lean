import ModerationGateway.Association
import ModerationGateway.Breaker.Basic
import ModerationGateway.Breaker.Machine
import ModerationGateway.Breaker.Registry
import ModerationGateway.Breaker.Settings
import ModerationGateway.Breaker.Timeline
import ModerationGateway.Chat.Prompt
import ModerationGateway.Chat.Reply
import ModerationGateway.Cli.Arguments
import ModerationGateway.Cli.Command
import ModerationGateway.Cli.Help
import ModerationGateway.Cli.Host
import ModerationGateway.Cli.Listener
import ModerationGateway.Cli.Run
import ModerationGateway.Config.Basic
import ModerationGateway.Config.Example
import ModerationGateway.Config.File
import ModerationGateway.Config.Rule
import ModerationGateway.Domain.Mapping
import ModerationGateway.Domain.Name
import ModerationGateway.Domain.Punycode
import ModerationGateway.Fault
import ModerationGateway.Files
import ModerationGateway.Gateway.Forward
import ModerationGateway.Gateway.Moderated
import ModerationGateway.Gateway.Router
import ModerationGateway.Gateway.Rules
import ModerationGateway.Gateway.State
import ModerationGateway.Gateway.Stats
import ModerationGateway.Http.Chunked
import ModerationGateway.Http.Client
import ModerationGateway.Http.Failure
import ModerationGateway.Http.Head
import ModerationGateway.Http.Message
import ModerationGateway.Http.Proxy
import ModerationGateway.Http.Redirect
import ModerationGateway.Http.Reply
import ModerationGateway.Http.Uri
import ModerationGateway.Json.Numeral
import ModerationGateway.Json.Reader
import ModerationGateway.Json.Record
import ModerationGateway.Json.Value
import ModerationGateway.Json.Writer
import ModerationGateway.Moderation.Checker
import ModerationGateway.Moderation.Consult
import ModerationGateway.Moderation.Envelope
import ModerationGateway.Moderation.Gate
import ModerationGateway.Moderation.Interceptor
import ModerationGateway.Moderation.Release
import ModerationGateway.Moderation.Screening
import ModerationGateway.Moderation.Scripted
import ModerationGateway.Moderation.Vendor.Remote
import ModerationGateway.Moderation.Vendor.Shumei
import ModerationGateway.Moderation.Vendor.Zkrj
import ModerationGateway.Moderation.Verdict
import ModerationGateway.Number.Binary64
import ModerationGateway.Number.Digits
import ModerationGateway.Number.Shortest
import ModerationGateway.Stream.Arrival
import ModerationGateway.Stream.Batch
import ModerationGateway.Stream.Frame
import ModerationGateway.Stream.InFlight
import ModerationGateway.Stream.Window
import ModerationGateway.Text.Base64
import ModerationGateway.Text.Blank
import ModerationGateway.Text.Occurs
import ModerationGateway.Text.Quoted
import ModerationGateway.Text.Split
import ModerationGateway.Text.Unseen
import ModerationGateway.Text.Utf8
import ModerationGateway.Toml.Document
import ModerationGateway.Toml.Numeral
import ModerationGateway.Toml.Quoted
import ModerationGateway.Toml.Scan
import ModerationGateway.Toml.Table
import ModerationGateway.Unicode.CombiningClass
import ModerationGateway.Unicode.Composition
import ModerationGateway.Unicode.Direction
import ModerationGateway.Unicode.Joining
import ModerationGateway.Unicode.Mark
import ModerationGateway.Unicode.Ranges
import ModerationGateway.Url.Basic
import ModerationGateway.Url.Host
import ModerationGateway.Url.Ipv4
import ModerationGateway.Url.Ipv6
import ModerationGateway.Url.Network
import ModerationGateway.Url.Parser
import ModerationGateway.Url.Path
import ModerationGateway.Url.Percent
import ModerationGateway.Words.Cache
import ModerationGateway.Words.Matcher
import ModerationGateway.Words.Source
import ModerationGateway.Words.Trie
import ModerationGateway.Words.WordList
import ModerationGateway.Main
import ModerationGateway.Proofs.Breaker.Calm
import ModerationGateway.Proofs.Breaker.Periods
import ModerationGateway.Proofs.Breaker.Permits
import ModerationGateway.Proofs.Breaker.Service
import ModerationGateway.Proofs.Breaker.Shield
import ModerationGateway.Proofs.Breaker.Tally
import ModerationGateway.Proofs.Breaker.Timeline
import ModerationGateway.Proofs.Breaker.Traffic
import ModerationGateway.Proofs.Gateway.Answers
import ModerationGateway.Proofs.Gateway.Leniency
import ModerationGateway.Proofs.Gateway.Withholding
import ModerationGateway.Proofs.Moderation.Alone
import ModerationGateway.Proofs.Moderation.Cadence
import ModerationGateway.Proofs.Moderation.Chunking
import ModerationGateway.Proofs.Moderation.Coverage
import ModerationGateway.Proofs.Moderation.Crowd
import ModerationGateway.Proofs.Moderation.Delivery
import ModerationGateway.Proofs.Moderation.Exchange
import ModerationGateway.Proofs.Moderation.Fleet
import ModerationGateway.Proofs.Moderation.Independence
import ModerationGateway.Proofs.Moderation.Leniency
import ModerationGateway.Proofs.Moderation.Log
import ModerationGateway.Proofs.Moderation.Outcome
import ModerationGateway.Proofs.Moderation.Reading
import ModerationGateway.Proofs.Moderation.Refusal
import ModerationGateway.Proofs.Moderation.Rounds
import ModerationGateway.Proofs.Moderation.Session
import ModerationGateway.Proofs.Moderation.Straddling
import ModerationGateway.Proofs.Stream.Blanks
import ModerationGateway.Proofs.Stream.Conservation
import ModerationGateway.Proofs.Stream.Lines
import ModerationGateway.Proofs.Stream.Newest
import ModerationGateway.Proofs.Stream.Uses
import ModerationGateway.Proofs.Words.Links
import ModerationGateway.Proofs.Words.Search
import ModerationGateway.Proofs.Words.Suffix
import ModerationGateway.Proofs.Words.Tree
import ModerationGateway.Proofs.Json.Tokens
import ModerationGateway.Proofs.Text.Utf8
import ModerationGateway.Proofs.Chat.Events
import ModerationGateway.Proofs.Moderation.Screening
import ModerationGateway.Proofs.Words.Callers
import ModerationGateway.Proofs.Words.Places
import ModerationGateway.Proofs.Words.Loads
import ModerationGateway.Proofs.Breaker.Registry
import ModerationGateway.Proofs.Words.Sharing
import ModerationGateway.Proofs.Moderation.Isolation
import ModerationGateway.Proofs.Breaker.Health
import ModerationGateway.Proofs.Breaker.Listing
import ModerationGateway.Proofs.Breaker.Panel
import ModerationGateway.Proofs.Breaker.Handover
import ModerationGateway.Proofs.Gateway.Fates
import ModerationGateway.Proofs.Gateway.Accounts
import ModerationGateway.Proofs.Json.Fields
import ModerationGateway.Proofs.Config.Written
import ModerationGateway.Proofs.Gateway.Routes
import ModerationGateway.Proofs.Moderation.Room
import ModerationGateway.Proofs.Text.Boundary
import ModerationGateway.Proofs.Stream.History
import ModerationGateway.Proofs.Stream.Grouping
import ModerationGateway.Proofs.Stream.LineEnds
import ModerationGateway.Proofs.Stream.Content
import ModerationGateway.Proofs.Stream.Room
import ModerationGateway.Proofs.Moderation.Replies
import ModerationGateway.Proofs.Moderation.Envelopes
import ModerationGateway.Proofs.Moderation.Payload
import ModerationGateway.Proofs.Gateway.Latencies
import ModerationGateway.Proofs.Words.WordSet
import ModerationGateway.Proofs.Text.Lines
import ModerationGateway.Proofs.Words.WordList
import ModerationGateway.Proofs.Gateway.Changes
import ModerationGateway.Proofs.Loop
import ModerationGateway.Proofs.Stream.Scanning
import ModerationGateway.Proofs.Words.Paths
import ModerationGateway.Proofs.Words.Walks
import ModerationGateway.Proofs.Gateway.LetterCase
