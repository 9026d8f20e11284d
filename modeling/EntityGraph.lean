import EntityGraph.Checked.Basic
import EntityGraph.Checked.Read
import EntityGraph.Clock
import EntityGraph.Decimal.Binary64
import EntityGraph.Decimal.Fixed
import EntityGraph.Decimal.Read
import EntityGraph.Decimal.Scientific
import EntityGraph.Decimal.Shortest
import EntityGraph.Delay
import EntityGraph.Digest.Sha256
import EntityGraph.Document.Basic
import EntityGraph.Document.Read
import EntityGraph.Entity.Basic
import EntityGraph.Entity.Category
import EntityGraph.Entity.Read
import EntityGraph.Fault
import EntityGraph.Graph.Basic
import EntityGraph.Graph.Execute
import EntityGraph.Graph.Read
import EntityGraph.Graph.Steps
import EntityGraph.Language.Client
import EntityGraph.Log.Context
import EntityGraph.Log.Directive
import EntityGraph.Log.File
import EntityGraph.Log.Format
import EntityGraph.Log.Output
import EntityGraph.Log.Record
import EntityGraph.Log.Size
import EntityGraph.Log.Template
import EntityGraph.Proofs.Entity.Casing
import EntityGraph.Proofs.Entity.Checks
import EntityGraph.Proofs.Entity.Distinct
import EntityGraph.Proofs.Entity.Uniqueness
import EntityGraph.Proofs.Graph.Connections
import EntityGraph.Proofs.Graph.Distance
import EntityGraph.Proofs.Graph.Execution
import EntityGraph.Proofs.Graph.Growth
import EntityGraph.Proofs.Graph.Limits
import EntityGraph.Proofs.Graph.Pairs
import EntityGraph.Proofs.Graph.Prefixes
import EntityGraph.Proofs.Graph.Reading
import EntityGraph.Proofs.Graph.Sorting
import EntityGraph.Proofs.Graph.Write
import EntityGraph.Proofs.Language.Answers
import EntityGraph.Proofs.Language.Batches
import EntityGraph.Proofs.Log.Lines
import EntityGraph.Proofs.Log.Scopes
import EntityGraph.Proofs.Log.Sizes
import EntityGraph.Proofs.Query.Acceptance
import EntityGraph.Proofs.Query.Continuation
import EntityGraph.Proofs.Query.Descent
import EntityGraph.Proofs.Query.Evaluation
import EntityGraph.Proofs.Query.Grammar
import EntityGraph.Proofs.Query.Joining
import EntityGraph.Proofs.Query.Juxtaposition
import EntityGraph.Proofs.Query.Layout
import EntityGraph.Proofs.Query.Progress
import EntityGraph.Proofs.Query.Refusal
import EntityGraph.Proofs.Query.Rendering
import EntityGraph.Proofs.Query.Scanning
import EntityGraph.Proofs.Recording.Attempts
import EntityGraph.Proofs.Recording.Choosing
import EntityGraph.Proofs.Recording.Composition
import EntityGraph.Proofs.Recording.Confined
import EntityGraph.Proofs.Recording.Contexts
import EntityGraph.Proofs.Recording.Cutoff
import EntityGraph.Proofs.Recording.Documents
import EntityGraph.Proofs.Recording.Extraction
import EntityGraph.Proofs.Recording.History
import EntityGraph.Proofs.Recording.Ingestion
import EntityGraph.Proofs.Recording.Insulated
import EntityGraph.Proofs.Recording.Keys
import EntityGraph.Proofs.Recording.Paging
import EntityGraph.Proofs.Recording.Performs
import EntityGraph.Proofs.Recording.Plan
import EntityGraph.Proofs.Recording.Provenance
import EntityGraph.Proofs.Recording.Relationships
import EntityGraph.Proofs.Recording.Reordering
import EntityGraph.Proofs.Recording.Reports
import EntityGraph.Proofs.Recording.Retrying
import EntityGraph.Proofs.Recording.Served
import EntityGraph.Proofs.Recording.Skipping
import EntityGraph.Proofs.Recording.Struck
import EntityGraph.Proofs.Recording.Trials
import EntityGraph.Proofs.Recording.Typing
import EntityGraph.Proofs.Recording.Vertices
import EntityGraph.Proofs.Relationship.Admission
import EntityGraph.Proofs.Relationship.Labels
import EntityGraph.Proofs.Relationship.Orientation
import EntityGraph.Proofs.Relationship.Symmetry
import EntityGraph.Proofs.Remote.Lifecycle
import EntityGraph.Proofs.Search.Appearances
import EntityGraph.Proofs.Search.Bounded
import EntityGraph.Proofs.Search.Common
import EntityGraph.Proofs.Search.Companions
import EntityGraph.Proofs.Search.Conjunctions
import EntityGraph.Proofs.Search.Contexts
import EntityGraph.Proofs.Search.Entities
import EntityGraph.Proofs.Search.Keywords
import EntityGraph.Proofs.Search.Metadata
import EntityGraph.Proofs.Search.Recorded
import EntityGraph.Proofs.Search.Related
import EntityGraph.Proofs.Search.Rows
import EntityGraph.Proofs.Search.Run
import EntityGraph.Proofs.Search.Terms
import EntityGraph.Proofs.Session.Calls
import EntityGraph.Proofs.Session.Contexts
import EntityGraph.Proofs.Session.Moves
import EntityGraph.Proofs.Session.Sent
import EntityGraph.Proofs.Settings.Loading
import EntityGraph.Proofs.Text.Letters
import EntityGraph.Proofs.Text.Runs
import EntityGraph.Proofs.Traversal.Bindings
import EntityGraph.Proofs.Traversal.Decoding
import EntityGraph.Proofs.Traversal.Quoting
import EntityGraph.Proofs.Value.Escapes
import EntityGraph.Proofs.Value.Json
import EntityGraph.Query.Basic
import EntityGraph.Query.Draft
import EntityGraph.Query.Parse
import EntityGraph.Query.Token
import EntityGraph.Recording.Batch
import EntityGraph.Recording.Document
import EntityGraph.Recording.Retry
import EntityGraph.Recording.Write
import EntityGraph.Relationship.Resolve
import EntityGraph.Relationship.Table
import EntityGraph.Remote.Client
import EntityGraph.Request
import EntityGraph.Search.Bounds
import EntityGraph.Search.Row
import EntityGraph.Search.Service
import EntityGraph.Session.Basic
import EntityGraph.Session.Failure
import EntityGraph.Settings.Basic
import EntityGraph.Settings.Selection
import EntityGraph.Text.Blank
import EntityGraph.Text.Case
import EntityGraph.Text.CaseTable
import EntityGraph.Text.Digit
import EntityGraph.Text.PrintableTable
import EntityGraph.Text.Quoted
import EntityGraph.Text.Ranges
import EntityGraph.Text.TitleTable
import EntityGraph.Traversal.Basic
import EntityGraph.Traversal.Find
import EntityGraph.Traversal.Literal
import EntityGraph.Traversal.Match
import EntityGraph.Traversal.Upsert
import EntityGraph.Value.Basic
import EntityGraph.Value.Display
import EntityGraph.Value.Entries
import EntityGraph.Value.Json
import EntityGraph.Value.Order
import EntityGraph.Value.Text
import EntityGraph.Version
