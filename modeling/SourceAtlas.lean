import SourceAtlas.Code.Crate.Items
import SourceAtlas.Code.Crate.Lexer
import SourceAtlas.Code.Crate.Use
import SourceAtlas.Code.Language
import SourceAtlas.Code.Offside.Blocks
import SourceAtlas.Code.Offside.Imports
import SourceAtlas.Code.Offside.Lexer
import SourceAtlas.Code.Script.ClassBody
import SourceAtlas.Code.Script.Declaration
import SourceAtlas.Code.Script.Expression
import SourceAtlas.Code.Script.Lexer
import SourceAtlas.Code.Script.Linkage
import SourceAtlas.Code.Script.Statement
import SourceAtlas.Code.Script.TypeExtent
import SourceAtlas.Code.Span
import SourceAtlas.Code.Token
import SourceAtlas.Command.Arguments
import SourceAtlas.Command.Line
import SourceAtlas.Command.Program
import SourceAtlas.Command.Report
import SourceAtlas.Command.Run
import SourceAtlas.Command.Session
import SourceAtlas.Config.Reader
import SourceAtlas.Config.Settings
import SourceAtlas.Config.Writer
import SourceAtlas.Digest.KeyedHash
import SourceAtlas.Digest.Sha256
import SourceAtlas.Embedding.Batch
import SourceAtlas.Embedding.Cache
import SourceAtlas.Embedding.Eviction
import SourceAtlas.Embedding.Hashing
import SourceAtlas.Embedding.Provider
import SourceAtlas.Embedding.Remote
import SourceAtlas.Embedding.Vector
import SourceAtlas.Error
import SourceAtlas.Facts
import SourceAtlas.Files.System
import SourceAtlas.Files.Tree
import SourceAtlas.Graph.Assembly
import SourceAtlas.Graph.Basic
import SourceAtlas.Graph.Cycle
import SourceAtlas.Graph.Depth
import SourceAtlas.Graph.Format
import SourceAtlas.Graph.Reach
import SourceAtlas.Graph.Report
import SourceAtlas.Graph.Resolution
import SourceAtlas.Index.Basic
import SourceAtlas.Index.Exposition
import SourceAtlas.Index.Failure
import SourceAtlas.Index.Format
import SourceAtlas.Index.Pass
import SourceAtlas.Index.Progress
import SourceAtlas.Index.Query
import SourceAtlas.Index.ReportFormat
import SourceAtlas.Index.Saved
import SourceAtlas.Index.State
import SourceAtlas.Json.Indented
import SourceAtlas.Json.Reader
import SourceAtlas.Json.Value
import SourceAtlas.Log.File
import SourceAtlas.Main
import SourceAtlas.Match.Fuzzy
import SourceAtlas.Match.IgnoreGlob
import SourceAtlas.Match.IgnoreRules
import SourceAtlas.Match.PathPattern
import SourceAtlas.Number.Decimal
import SourceAtlas.Number.Fixed
import SourceAtlas.Number.Single
import SourceAtlas.Number.Total
import SourceAtlas.Number.Word
import SourceAtlas.Path.Key
import SourceAtlas.Proofs.Code.Use
import SourceAtlas.Proofs.Code.UseTree
import SourceAtlas.Proofs.Command.Refresh
import SourceAtlas.Proofs.Embedding.Dimension
import SourceAtlas.Proofs.Embedding.Eviction
import SourceAtlas.Proofs.Embedding.Flight
import SourceAtlas.Proofs.Embedding.Landing
import SourceAtlas.Proofs.Embedding.Operations
import SourceAtlas.Proofs.Embedding.Pairing
import SourceAtlas.Proofs.Embedding.Recency
import SourceAtlas.Proofs.Embedding.RoundSize
import SourceAtlas.Proofs.Embedding.Search
import SourceAtlas.Proofs.FileMap
import SourceAtlas.Proofs.Files.Descent
import SourceAtlas.Proofs.Files.Replacement
import SourceAtlas.Proofs.Graph.Assembly
import SourceAtlas.Proofs.Graph.Cycles
import SourceAtlas.Proofs.Graph.Depth
import SourceAtlas.Proofs.Graph.Discovery
import SourceAtlas.Proofs.Graph.Externals
import SourceAtlas.Proofs.Graph.Lockstep
import SourceAtlas.Proofs.Graph.ModuleImport
import SourceAtlas.Proofs.Graph.Participation
import SourceAtlas.Proofs.Graph.Reach
import SourceAtlas.Proofs.Graph.Rebuild
import SourceAtlas.Proofs.Graph.Resolution
import SourceAtlas.Proofs.Graph.Rotation
import SourceAtlas.Proofs.Graph.Search
import SourceAtlas.Proofs.Graph.Traversal
import SourceAtlas.Proofs.Graph.Unreachable
import SourceAtlas.Proofs.Graph.Views
import SourceAtlas.Proofs.Index.Accounting
import SourceAtlas.Proofs.Index.AnyOrder
import SourceAtlas.Proofs.Index.Budget
import SourceAtlas.Proofs.Index.Codec
import SourceAtlas.Proofs.Index.Coherence
import SourceAtlas.Proofs.Index.Contents
import SourceAtlas.Proofs.Index.Entries
import SourceAtlas.Proofs.Index.Frame
import SourceAtlas.Proofs.Index.FullPass
import SourceAtlas.Proofs.Index.Jobs
import SourceAtlas.Proofs.Index.Lifecycle
import SourceAtlas.Proofs.Index.Naming
import SourceAtlas.Proofs.Index.Operations
import SourceAtlas.Proofs.Index.Pairing
import SourceAtlas.Proofs.Index.Pass
import SourceAtlas.Proofs.Index.Progress
import SourceAtlas.Proofs.Index.Provenance
import SourceAtlas.Proofs.Index.Recording
import SourceAtlas.Proofs.Index.Refinement
import SourceAtlas.Proofs.Index.Restore
import SourceAtlas.Proofs.Index.Saving
import SourceAtlas.Proofs.Index.Staleness
import SourceAtlas.Proofs.Index.Taken
import SourceAtlas.Proofs.Json.RoundTrip
import SourceAtlas.Proofs.Json.Scalars
import SourceAtlas.Proofs.Path.Joining
import SourceAtlas.Proofs.Path.Key
import SourceAtlas.Proofs.Path.Normal
import SourceAtlas.Proofs.Ranking
import SourceAtlas.Proofs.Snapshot.Agreement
import SourceAtlas.Proofs.Snapshot.Changes
import SourceAtlas.Proofs.Snapshot.Partition
import SourceAtlas.Proofs.Snapshot.Walk
import SourceAtlas.Proofs.Symbol.Disturbance
import SourceAtlas.Proofs.Symbol.Edits
import SourceAtlas.Proofs.Symbol.Listing
import SourceAtlas.Proofs.Symbol.Lookup
import SourceAtlas.Proofs.Symbol.Occurrence
import SourceAtlas.Proofs.Symbol.Ownership
import SourceAtlas.Proofs.Symbol.Search
import SourceAtlas.Proofs.Symbol.Table
import SourceAtlas.Proofs.Symbol.Usage
import SourceAtlas.Proofs.Text.Split
import SourceAtlas.Snapshot.Basic
import SourceAtlas.Snapshot.Capture
import SourceAtlas.Snapshot.Diff
import SourceAtlas.Symbol.Basic
import SourceAtlas.Symbol.Format
import SourceAtlas.Symbol.Search
import SourceAtlas.Symbol.Table
import SourceAtlas.Symbol.Usage
import SourceAtlas.Text.CharClass
import SourceAtlas.Text.CharTable.Alphabetic
import SourceAtlas.Text.CharTable.Case
import SourceAtlas.Text.CharTable.Grapheme
import SourceAtlas.Text.CharTable.LatinBase
import SourceAtlas.Text.Grapheme
import SourceAtlas.Text.Split
import SourceAtlas.Time.Calendar
import SourceAtlas.Toml.Document
import SourceAtlas.Toml.Scalar
import SourceAtlas.Toml.Value
