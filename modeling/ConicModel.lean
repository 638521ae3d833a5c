import ConicModel.Constraint.Basic
import ConicModel.Constraint.Set
import ConicModel.Decimal.Binary64
import ConicModel.Decimal.Numeral
import ConicModel.Decimal.Shortest
import ConicModel.Entity
import ConicModel.Event
import ConicModel.Expr.Basic
import ConicModel.Expr.Terms
import ConicModel.Form.Basic
import ConicModel.Form.Model
import ConicModel.Form.Session
import ConicModel.Json.Reading
import ConicModel.Json.Value
import ConicModel.Model.Basic
import ConicModel.Model.Edit
import ConicModel.Model.Reading
import ConicModel.Model.Registry
import ConicModel.Model.Text
import ConicModel.Model.Variable
import ConicModel.Model.Writing
import ConicModel.Proofs.Constraint.Comparison
import ConicModel.Proofs.Decimal.Notation
import ConicModel.Proofs.Decimal.Rounding
import ConicModel.Proofs.Decimal.Spelling
import ConicModel.Proofs.Expr.Canonical
import ConicModel.Proofs.Expr.Coefficients
import ConicModel.Proofs.Expr.Evaluation
import ConicModel.Proofs.Expr.Omission
import ConicModel.Proofs.Expr.Sum
import ConicModel.Proofs.Expr.Value
import ConicModel.Proofs.Float.Arithmetic
import ConicModel.Proofs.Float.Packing
import ConicModel.Proofs.Form.Interchange
import ConicModel.Proofs.Form.JsonText
import ConicModel.Proofs.Form.Provenance
import ConicModel.Proofs.Form.Recovery
import ConicModel.Proofs.Json.Numeral
import ConicModel.Proofs.Json.Reading
import ConicModel.Proofs.Model.Atomicity
import ConicModel.Proofs.Model.Change
import ConicModel.Proofs.Model.Commutation
import ConicModel.Proofs.Model.Consistency
import ConicModel.Proofs.Model.Declaration
import ConicModel.Proofs.Model.Decoration
import ConicModel.Proofs.Model.Evolution
import ConicModel.Proofs.Model.Expression
import ConicModel.Proofs.Model.Generation
import ConicModel.Proofs.Model.Grammar
import ConicModel.Proofs.Model.Interval
import ConicModel.Proofs.Model.Kinds
import ConicModel.Proofs.Model.Label
import ConicModel.Proofs.Model.Labelling
import ConicModel.Proofs.Model.Line
import ConicModel.Proofs.Model.NameTable
import ConicModel.Proofs.Model.Naming
import ConicModel.Proofs.Model.Numbering
import ConicModel.Proofs.Model.Reachable
import ConicModel.Proofs.Model.Reconstruction
import ConicModel.Proofs.Model.Reemission
import ConicModel.Proofs.Model.Registry
import ConicModel.Proofs.Model.Relation
import ConicModel.Proofs.Model.Renumbering
import ConicModel.Proofs.Model.RoundTrip
import ConicModel.Proofs.Model.Validity
import ConicModel.Proofs.Model.WellFormed
import ConicModel.Proofs.Result.Access
import ConicModel.Proofs.Result.Decoding
import ConicModel.Proofs.Result.Matrix
import ConicModel.Proofs.Result.Overflow
import ConicModel.Proofs.Result.Rows
import ConicModel.Proofs.Session.Accord
import ConicModel.Proofs.Session.Action
import ConicModel.Proofs.Session.Asking
import ConicModel.Proofs.Session.Causes
import ConicModel.Proofs.Session.Conduct
import ConicModel.Proofs.Session.Consultation
import ConicModel.Proofs.Session.Correspondence
import ConicModel.Proofs.Session.Coverage
import ConicModel.Proofs.Session.Custody
import ConicModel.Proofs.Session.Direct
import ConicModel.Proofs.Session.Disparity
import ConicModel.Proofs.Session.Duals
import ConicModel.Proofs.Session.Facts
import ConicModel.Proofs.Session.Frame
import ConicModel.Proofs.Session.Gathering
import ConicModel.Proofs.Session.Handling
import ConicModel.Proofs.Session.Identity
import ConicModel.Proofs.Session.Independence
import ConicModel.Proofs.Session.IndexTable
import ConicModel.Proofs.Session.Indexing
import ConicModel.Proofs.Session.Isolation
import ConicModel.Proofs.Session.Lifespan
import ConicModel.Proofs.Session.Machine
import ConicModel.Proofs.Session.Management
import ConicModel.Proofs.Session.Misplacement
import ConicModel.Proofs.Session.Outcome
import ConicModel.Proofs.Session.Outliving
import ConicModel.Proofs.Session.Pairing
import ConicModel.Proofs.Session.Parity
import ConicModel.Proofs.Session.Recall
import ConicModel.Proofs.Session.Recollection
import ConicModel.Proofs.Session.Record
import ConicModel.Proofs.Session.Refusal
import ConicModel.Proofs.Session.Run
import ConicModel.Proofs.Session.Staleness
import ConicModel.Proofs.Session.Suppression
import ConicModel.Proofs.Session.Synchrony
import ConicModel.Proofs.Session.Transport
import ConicModel.Proofs.Session.Validation
import ConicModel.Proofs.Session.Values
import ConicModel.Proofs.Solver.Transcript
import ConicModel.Proofs.Text.Split
import ConicModel.Result.Decode
import ConicModel.Result.Matrix
import ConicModel.Scalar
import ConicModel.Session.Basic
import ConicModel.Session.Configuration
import ConicModel.Session.Error
import ConicModel.Session.IndexMap
import ConicModel.Session.Lifecycle
import ConicModel.Session.Link
import ConicModel.Session.Operation
import ConicModel.Session.Query
import ConicModel.Session.Record
import ConicModel.Session.Results
import ConicModel.Solver.Attribute
import ConicModel.Solver.Basic
import ConicModel.Solver.Journal
import ConicModel.Solver.Scripted
import ConicModel.Solver.Status
import ConicModel.Text.Split
