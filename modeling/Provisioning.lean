import Provisioning.Attribute.BuiltIn
import Provisioning.Attribute.Codec
import Provisioning.Attribute.Definition
import Provisioning.Attribute.Kind
import Provisioning.Attribute.Row
import Provisioning.Attribute.Value
import Provisioning.Calendar.Date
import Provisioning.Calendar.Time
import Provisioning.Calendar.Timestamp
import Provisioning.CharSet
import Provisioning.Directory.Basic
import Provisioning.Directory.Catalogue
import Provisioning.Directory.Lookup
import Provisioning.Directory.Query
import Provisioning.Directory.Session
import Provisioning.Directory.Tenant
import Provisioning.Failure
import Provisioning.Grant.Basic
import Provisioning.Grant.Reconcile
import Provisioning.Host
import Provisioning.Json
import Provisioning.Json.Document
import Provisioning.Json.Lexer
import Provisioning.Json.Numeral
import Provisioning.Json.Printer
import Provisioning.Number.Binary64
import Provisioning.Number.Scaled
import Provisioning.Number.Shortest
import Provisioning.Number.Text
import Provisioning.Operations
import Provisioning.Pattern.Automaton
import Provisioning.Pattern.Basic
import Provisioning.Pattern.Bracket
import Provisioning.Pattern.Escape
import Provisioning.Pattern.Expression
import Provisioning.Pattern.Flags
import Provisioning.Pattern.Form
import Provisioning.Pattern.Limits
import Provisioning.Pattern.Parser
import Provisioning.Pattern.Search
import Provisioning.Policy
import Provisioning.Proofs.Catalogue
import Provisioning.Proofs.Classification
import Provisioning.Proofs.Escalation
import Provisioning.Proofs.Grant.Applied
import Provisioning.Proofs.Grant.Batch
import Provisioning.Proofs.Grant.Distinct
import Provisioning.Proofs.Grant.Gate
import Provisioning.Proofs.Grant.Judge
import Provisioning.Proofs.Grant.References
import Provisioning.Proofs.Grant.Stages
import Provisioning.Proofs.Grant.Verdict
import Provisioning.Proofs.Host
import Provisioning.Proofs.Memo
import Provisioning.Proofs.Permission
import Provisioning.Proofs.Resolving
import Provisioning.Proofs.Retention
import Provisioning.Proofs.Session
import Provisioning.Request
import Provisioning.Role.Basic
import Provisioning.Role.Permission
import Provisioning.Schema.Basic
import Provisioning.Schema.Validation
import Provisioning.SortedMap
import Provisioning.SortedSet
import Provisioning.Text.Blank
import Provisioning.Text.Casing
import Provisioning.Text.Category
import Provisioning.Text.CodePoints
import Provisioning.Text.Folding
import Provisioning.Text.Property
import Provisioning.Text.Quoted
import Provisioning.Text.Utf8
import Provisioning.Uuid
import Provisioning.Uuid.Named
import Provisioning.Wire.Attributes
import Provisioning.Wire.Grants
import Provisioning.Wire.Reader
import Provisioning.Wire.Requests
import Provisioning.Proofs.Availability
import Provisioning.Proofs.Agreement
import Provisioning.Proofs.Grant.Order
import Provisioning.Proofs.Validation
import Provisioning.Proofs.Values
import Provisioning.Proofs.Storing
import Provisioning.Proofs.Uniqueness
import Provisioning.Proofs.Grant.Creation
import Provisioning.Proofs.Shortcut
import Provisioning.Proofs.Isolation
import Provisioning.Proofs.Stored.RoundTrip
import Provisioning.Proofs.Stored.Wire
import Provisioning.Proofs.Number.Nearest
import Provisioning.Proofs.Number.Shortest
import Provisioning.Proofs.Number.Scaled
import Provisioning.Proofs.Stored.Numerals
import Provisioning.Proofs.Stored.Reals
import Provisioning.Proofs.Stored.Legible
import Provisioning.Proofs.Stored.Instant
import Provisioning.Proofs.Stored.Canonical
import Provisioning.Proofs.Lowering
import Provisioning.Proofs.Registry
import Provisioning.Proofs.Acceptance
import Provisioning.Proofs.Missing
import Provisioning.Proofs.Grant.Report
import Provisioning.Proofs.Grant.Naming
import Provisioning.Proofs.Grant.Replay
import Provisioning.Proofs.Grant.Undo
import Provisioning.Proofs.Batching
import Provisioning.Proofs.ReadOnly
import Provisioning.Proofs.Maintenance
import Provisioning.Proofs.Identifiers
import Provisioning.Proofs.Pattern.Whole
import Provisioning.Proofs.Recasing
import Provisioning.Proofs.Stored.Scalars
import Provisioning.Proofs.Wire.Records
import Provisioning.Proofs.Wire.Forms
import Provisioning.Proofs.Wire.Stable
import Provisioning.Proofs.Wire.Targets
import Provisioning.Proofs.Transparency
