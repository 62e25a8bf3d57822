import Gatehouse.CommandLine
import Gatehouse.Config.Document
import Gatehouse.Config.Environment
import Gatehouse.Config.Expansion
import Gatehouse.Config.RuleTable
import Gatehouse.Config.Settings
import Gatehouse.Edge.Allowlist
import Gatehouse.Edge.Credential
import Gatehouse.Edge.Effective
import Gatehouse.Edge.Forward
import Gatehouse.Edge.Gate
import Gatehouse.Edge.Header
import Gatehouse.Edge.MediaType
import Gatehouse.Edge.Message
import Gatehouse.Edge.Query
import Gatehouse.Edge.Refusal
import Gatehouse.Edge.Snapshot
import Gatehouse.Edge.Socket
import Gatehouse.Edge.Startup
import Gatehouse.Edge.Url
import Gatehouse.Edge.Wire
import Gatehouse.Json.Container
import Gatehouse.Json.Cursor
import Gatehouse.Json.Fault
import Gatehouse.Json.Record
import Gatehouse.Json.Scalar
import Gatehouse.Json.Tagged
import Gatehouse.Json.Value
import Gatehouse.Main
import Gatehouse.Message.Client
import Gatehouse.Message.Event
import Gatehouse.Message.Server
import Gatehouse.Number.Double
import Gatehouse.Number.Shortest
import Gatehouse.Pattern.Age
import Gatehouse.Pattern.Bracket
import Gatehouse.Pattern.Category
import Gatehouse.Pattern.CharSet
import Gatehouse.Pattern.Escape
import Gatehouse.Pattern.Expression
import Gatehouse.Pattern.Extent
import Gatehouse.Pattern.Folding
import Gatehouse.Pattern.Property
import Gatehouse.Pattern.Reader
import Gatehouse.Pattern.Script
import Gatehouse.Pattern.Segment
import Gatehouse.Pattern.Trait
import Gatehouse.Relay.Backoff
import Gatehouse.Relay.Channel
import Gatehouse.Relay.Connection
import Gatehouse.Relay.Hub
import Gatehouse.Relay.Intake
import Gatehouse.Relay.Queue
import Gatehouse.Relay.Rehearsal
import Gatehouse.Relay.Session
import Gatehouse.Relay.SnapshotUrl
import Gatehouse.Role.Basic
import Gatehouse.Role.Format
import Gatehouse.Role.Mapping
import Gatehouse.Role.Permission
import Gatehouse.Role.Set
import Gatehouse.Text.Ascii
import Gatehouse.Text.Blank
import Gatehouse.Text.CodeRange
import Gatehouse.Text.Digits
import Gatehouse.Text.Mark
import Gatehouse.Text.Natural
import Gatehouse.Text.Ordered
import Gatehouse.Text.Percent
import Gatehouse.Text.Printable
import Gatehouse.Text.Quoted
import Gatehouse.Text.Split
import Gatehouse.Text.Utf8
import Gatehouse.Time.Duration
import Gatehouse.Time.Rfc3339
import Gatehouse.Time.Timestamp
import Gatehouse.Token.Base64
import Gatehouse.Token.Claims
import Gatehouse.Token.Der
import Gatehouse.Token.Fault
import Gatehouse.Token.Heading
import Gatehouse.Token.KeyFile
import Gatehouse.Token.Rsa
import Gatehouse.Token.SampleKey
import Gatehouse.Token.Sha256
import Gatehouse.Token.Signer
import Gatehouse.Token.Validity
import Gatehouse.Token.Verifier
import Gatehouse.Toml.Document
import Gatehouse.Toml.Lexeme
import Gatehouse.Toml.Scalar
import Gatehouse.Toml.Value
import Gatehouse.Proofs.Edge.Admission
import Gatehouse.Proofs.Relay.Closing
import Gatehouse.Proofs.Relay.Moves
import Gatehouse.Proofs.Relay.Occupancy
import Gatehouse.Proofs.Relay.Retention
import Gatehouse.Proofs.Relay.Agreement
import Gatehouse.Proofs.Relay.Snapshots
import Gatehouse.Proofs.Json.Extent
import Gatehouse.Proofs.Json.Progress
import Gatehouse.Proofs.Json.Members
import Gatehouse.Proofs.Relay.Order
import Gatehouse.Proofs.Token.Requirements
import Gatehouse.Proofs.Token.Acceptance
import Gatehouse.Proofs.Edge.Passage
import Gatehouse.Proofs.Edge.NormalPath
import Gatehouse.Proofs.Edge.Evasion
import Gatehouse.Proofs.Relay.Happenings
import Gatehouse.Proofs.Relay.Registry
import Gatehouse.Proofs.Relay.Fanout
import Gatehouse.Proofs.Relay.Ascent
import Gatehouse.Proofs.Relay.Masking
import Gatehouse.Proofs.Relay.Slot
import Gatehouse.Proofs.Relay.Inflow
import Gatehouse.Proofs.Relay.Malformed
import Gatehouse.Proofs.Edge.Joining
import Gatehouse.Proofs.Relay.Wakeup
import Gatehouse.Proofs.Relay.Attendance
import Gatehouse.Proofs.Role.Permission
import Gatehouse.Proofs.Json.Canonical
import Gatehouse.Proofs.Json.Yield
import Gatehouse.Proofs.Json.ReadBack
import Gatehouse.Proofs.Json.Bounds
import Gatehouse.Proofs.Json.Typed
import Gatehouse.Proofs.Time.ReadBack
import Gatehouse.Proofs.Message.ReadBack
import Gatehouse.Proofs.Relay.Forwarding
import Gatehouse.Proofs.Role.Resolution
import Gatehouse.Proofs.Relay.Precedence
import Gatehouse.Proofs.Relay.Backlog
import Gatehouse.Proofs.Relay.Reconnection
import Gatehouse.Proofs.Relay.Growth
import Gatehouse.Proofs.Edge.Origin
import Gatehouse.Proofs.Edge.Destination
import Gatehouse.Proofs.Text.Spelling
import Gatehouse.Proofs.Edge.SnapshotAddress
import Gatehouse.Proofs.Text.Trimming
import Gatehouse.Proofs.Role.Compilation
import Gatehouse.Proofs.Edge.Correlation
import Gatehouse.Proofs.Edge.Relaying
import Gatehouse.Proofs.Role.ReadGroups
import Gatehouse.Proofs.Json.Freeform
import Gatehouse.Proofs.Role.Closure
import Gatehouse.Proofs.Relay.Feed
import Gatehouse.Proofs.Toml.Spelling
import Gatehouse.Proofs.Config.Pieces
import Gatehouse.Proofs.Config.References
import Gatehouse.Proofs.Toml.FurtherLines
import Gatehouse.Proofs.Toml.ValueInFront
import Gatehouse.Proofs.Toml.LineBefore
import Gatehouse.Proofs.Config.RuleEntries
import Gatehouse.Proofs.Config.RoleTexts
import Gatehouse.Proofs.Config.Variables
import Gatehouse.Proofs.Config.AnyMapping
import Gatehouse.Proofs.Edge.Carriers
import Gatehouse.Proofs.Json.Numeral
import Gatehouse.Proofs.Json.Stepping
import Gatehouse.Proofs.Json.Tagging
import Gatehouse.Proofs.Message.Apart
import Gatehouse.Proofs.Json.StrayBytes
import Gatehouse.Proofs.Token.ValidityWindow
import Gatehouse.Proofs.Token.Introspection
import Gatehouse.Proofs.Text.CommaList
import Gatehouse.Proofs.Config.ReadSuffixes
