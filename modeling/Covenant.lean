import Covenant.Capability
import Covenant.Catalogue.Basic
import Covenant.Catalogue.Check
import Covenant.Catalogue.Documents
import Covenant.Catalogue.Error
import Covenant.Catalogue.Load
import Covenant.Catalogue.Log
import Covenant.Catalogue.Operation
import Covenant.Catalogue.Register
import Covenant.Collection.Deque
import Covenant.Collection.Interval
import Covenant.Collection.Membership
import Covenant.Conformance
import Covenant.Document.Reading
import Covenant.FileSystem.Basic
import Covenant.FileSystem.Path
import Covenant.FileSystem.Resolve
import Covenant.Json.Basic
import Covenant.Json.Complex
import Covenant.Json.Document
import Covenant.Json.Numeral
import Covenant.Json.Printer
import Covenant.Json.Written
import Covenant.NameMap
import Covenant.Number.Binary
import Covenant.Number.Complex
import Covenant.Number.Conversion
import Covenant.Number.Decimal
import Covenant.Number.Hypotenuse
import Covenant.Proofs.Catalogue.AliasIndex
import Covenant.Proofs.Catalogue.Atomicity
import Covenant.Proofs.Catalogue.Bystanders
import Covenant.Proofs.Catalogue.Checking
import Covenant.Proofs.Catalogue.Configuration
import Covenant.Proofs.Catalogue.ConfiguredAliases
import Covenant.Proofs.Catalogue.Confinement
import Covenant.Proofs.Catalogue.Descent
import Covenant.Proofs.Catalogue.Forms
import Covenant.Proofs.Catalogue.History
import Covenant.Proofs.Catalogue.Ledger
import Covenant.Proofs.Catalogue.Listing
import Covenant.Proofs.Catalogue.Loading
import Covenant.Proofs.Catalogue.Operations
import Covenant.Proofs.Catalogue.OrderIndependence
import Covenant.Proofs.Catalogue.Permanence
import Covenant.Proofs.Catalogue.Redeclaration
import Covenant.Proofs.Catalogue.Registration
import Covenant.Proofs.Catalogue.Reloading
import Covenant.Proofs.Catalogue.Searching
import Covenant.Proofs.Catalogue.Settlement
import Covenant.Proofs.Catalogue.Snapshot
import Covenant.Proofs.Catalogue.Traversal
import Covenant.Proofs.Catalogue.Truthfulness
import Covenant.Proofs.Collection.Agreement
import Covenant.Proofs.Conformance.Diagnosis
import Covenant.Proofs.Conformance.Implication
import Covenant.Proofs.Conformance.Invariance
import Covenant.Proofs.Conformance.Loosening
import Covenant.Proofs.Conformance.Meeting
import Covenant.Proofs.Conformance.Repair
import Covenant.Proofs.Document.Reading
import Covenant.Proofs.FileSystem.Containment
import Covenant.Proofs.FileSystem.Locate
import Covenant.Proofs.FileSystem.Path
import Covenant.Proofs.FileSystem.Plan
import Covenant.Proofs.FileSystem.Removal
import Covenant.Proofs.FileSystem.Walk
import Covenant.Proofs.Json.RoundTrip
import Covenant.Proofs.NameMap
import Covenant.Proofs.Number.Decimal
import Covenant.Proofs.Number.Display
import Covenant.Proofs.Number.Integers
import Covenant.Proofs.Number.Magnitude
import Covenant.Proofs.Number.NaN
import Covenant.Proofs.Number.Nearest
import Covenant.Proofs.Number.Quotient
import Covenant.Proofs.Number.Rounding
import Covenant.Proofs.Number.Truncation
import Covenant.Proofs.Number.Value
import Covenant.Proofs.Number.Widening
import Covenant.Proofs.Protocol.Validation
import Covenant.Proofs.Protocol.WellFormed
import Covenant.Proofs.Settings.Overrides
import Covenant.Proofs.Text.Ascii
import Covenant.Proofs.Text.CodeOrder
import Covenant.Proofs.Text.Occurrence
import Covenant.Protocol.Basic
import Covenant.Protocol.Document
import Covenant.Reference
import Covenant.Settings
import Covenant.Surface
import Covenant.Text.Blank
import Covenant.Text.Cased
import Covenant.Text.Lower
import Covenant.Text.Printable
import Covenant.Text.Quoted
import Covenant.Text.Span
import Covenant.Version
import Covenant.Yaml.Cursor
import Covenant.Yaml.Error
import Covenant.Yaml.Node
import Covenant.Yaml.Node.Grammar
import Covenant.Yaml.Records
import Covenant.Yaml.Resolution
import Covenant.Yaml.Scalar
import Covenant.Yaml.Token
import Covenant.Yaml.Token.Lexer
import Covenant.Yaml.Value
