import RecordQuery.Main
import RecordQuery.Recording
import RecordQuery.Proofs.Attempt
import RecordQuery.Proofs.Clause.Errors
import RecordQuery.Proofs.QueryTree.Failure
import RecordQuery.Proofs.QueryTree.Repetition
import RecordQuery.Proofs.QueryTree.Selection
import RecordQuery.Proofs.Document.Entries
import RecordQuery.Proofs.Document.Diagnostics
import RecordQuery.Proofs.Document.Grammar
import RecordQuery.Proofs.Clause.Coercion
import RecordQuery.Proofs.Document.Coercion
import RecordQuery.Proofs.QueryTree.Conjuncts
import RecordQuery.Proofs.Document.Conjuncts
import RecordQuery.Proofs.Clause.Groups
import RecordQuery.Proofs.Document.Groups
import RecordQuery.Proofs.Paths
import RecordQuery.Proofs.Clause.Expansion
import RecordQuery.Proofs.Document.Expansion
import RecordQuery.Proofs.Value.Order
import RecordQuery.Proofs.Sorting
import RecordQuery.Proofs.RecordSet.Results
import RecordQuery.Proofs.Number.Canonical
import RecordQuery.Proofs.Json.Canonical
import RecordQuery.Proofs.Geometry.Canonical
import RecordQuery.Proofs.Geometry.Reading
import RecordQuery.Proofs.Clause.Canonical
import RecordQuery.Proofs.RecordSet.Distinct
import RecordQuery.Proofs.QueryTree.Replay
import RecordQuery.Proofs.Document.Widening
import RecordQuery.Proofs.Text.Base64
import RecordQuery.Proofs.Request.Transports
import RecordQuery.Proofs.Number.Nearest
import RecordQuery.Proofs.Number.Shortest
import RecordQuery.Proofs.Json.NumberText
import RecordQuery.Proofs.Json.Readable
import RecordQuery.Proofs.Json.Written
import RecordQuery.Proofs.Json.RoundTrip
import RecordQuery.Proofs.CommandLine.Run
import RecordQuery.Proofs.Document.Conditions
import RecordQuery.Proofs.QueryTree.Flattening
import RecordQuery.Proofs.Document.Pruning
import RecordQuery.Proofs.QueryTree.Noninterference
import RecordQuery.Proofs.Number.Rounding
import RecordQuery.Proofs.Number.Order
import RecordQuery.Proofs.Value.TotalOrder
import RecordQuery.Proofs.Geometry.Collection
import RecordQuery.Proofs.Clause.Reference
import RecordQuery.Proofs.Text.Lowercase
import RecordQuery.Proofs.Clause.IgnoringCase
import RecordQuery.Proofs.Text.Segments
import RecordQuery.Proofs.Clause.Operands
import RecordQuery.Proofs.Clause.Rules
import RecordQuery.Proofs.Clause.NullTests
import RecordQuery.Proofs.Number.Bounds
import RecordQuery.Proofs.Geometry.Validity
import RecordQuery.Proofs.Geometry.Box
import RecordQuery.Proofs.Clause.Reflexive
import RecordQuery.Proofs.RecordSet.Refusals
import RecordQuery.Proofs.Geometry.Parts
import RecordQuery.Proofs.Geometry.RoundTrip
import RecordQuery.Proofs.Geometry.LeastBox
import RecordQuery.Proofs.Clause.Spatial
import RecordQuery.Proofs.Value.NaturalOrder
import RecordQuery.Proofs.Clause.FieldOrder
import RecordQuery.Proofs.Json.Walk
import RecordQuery.Proofs.Geometry.WrittenForm
import RecordQuery.Proofs.Condition.WrittenForm
import RecordQuery.Proofs.QueryTree.WrittenForm
