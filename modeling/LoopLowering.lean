import LoopLowering.Backend
import LoopLowering.CommandLine.Arguments
import LoopLowering.CommandLine.Command
import LoopLowering.CommandLine.Log
import LoopLowering.CommandLine.Lower
import LoopLowering.CommandLine.Platforms
import LoopLowering.CommandLine.Program
import LoopLowering.CommandLine.Session
import LoopLowering.CommandLine.Settings
import LoopLowering.Digest.Sha256
import LoopLowering.Duration
import LoopLowering.Json.Basic
import LoopLowering.Json.Canonical
import LoopLowering.Json.Printer
import LoopLowering.Json.Quoted
import LoopLowering.Json.Reader
import LoopLowering.Json.Strict
import LoopLowering.Json.Token
import LoopLowering.Ledger
import LoopLowering.Lowering
import LoopLowering.Main
import LoopLowering.Mode
import LoopLowering.Numeric.DoubleRange
import LoopLowering.Numeric.Rounding
import LoopLowering.Numeric.Seconds
import LoopLowering.Options.Basic
import LoopLowering.Options.Value
import LoopLowering.Pass.Annotation
import LoopLowering.Pass.Basic
import LoopLowering.Platform.Basic
import LoopLowering.Platform.Catalogue
import LoopLowering.Platform.Class
import LoopLowering.Platform.Definition
import LoopLowering.Platform.Validation
import LoopLowering.Proofs.Pass.Effect
import LoopLowering.Proofs.Tree.Marking
import LoopLowering.Registry
import LoopLowering.Settings.Configuration
import LoopLowering.Settings.Profiling
import LoopLowering.SortedSet
import LoopLowering.Storage.FileStore
import LoopLowering.Storage.Loading
import LoopLowering.Storage.Memory
import LoopLowering.Target
import LoopLowering.Text.Attached
import LoopLowering.Text.Blank
import LoopLowering.Text.Decimal
import LoopLowering.Text.Pieces
import LoopLowering.Text.Ranges
import LoopLowering.Text.Shapeless
import LoopLowering.Text.Visible
import LoopLowering.Toml.Quoted
import LoopLowering.Toml.Reader
import LoopLowering.Toml.Record
import LoopLowering.Toml.Scalar
import LoopLowering.Toml.Value
import LoopLowering.Tree.Format
import LoopLowering.Tree.Node
import LoopLowering.Tree.Property
import LoopLowering.Tree.Traversal
import LoopLowering.Proofs.Pass.Performing
import LoopLowering.Proofs.Json.Reading
import LoopLowering.Proofs.Pass.Sequence
import LoopLowering.Proofs.Tree.Text
import LoopLowering.Proofs.Options.Merging
import LoopLowering.Proofs.Lowering.Outcome
import LoopLowering.Proofs.Lowering.Again
import LoopLowering.Proofs.Ledger.Labels
import LoopLowering.Proofs.Ledger.Suffixes
import LoopLowering.Proofs.Registry.History
import LoopLowering.Proofs.Tree.Place
import LoopLowering.Proofs.Lowering.WellAnnotated
import LoopLowering.Proofs.Pass.Pipeline
import LoopLowering.Proofs.Tree.Fingerprint
import LoopLowering.Proofs.Lowering.StandardModes
import LoopLowering.Proofs.Toml.Quoted
import LoopLowering.Proofs.Toml.Reading
import LoopLowering.Proofs.Platform.Definition
import LoopLowering.Proofs.Lowering.Dispatch
import LoopLowering.Proofs.Lowering.Spelled
import LoopLowering.Proofs.Lowering.Frame
import LoopLowering.Proofs.Pass.Loops
import LoopLowering.Proofs.Pass.Headers
import LoopLowering.Proofs.Pass.LoopFree
import LoopLowering.Proofs.Lowering.Reporting
import LoopLowering.Proofs.Settings.Layers
import LoopLowering.Proofs.Options.Resolution
import LoopLowering.Proofs.CommandLine.Precedence
import LoopLowering.Proofs.Platform.Hierarchy
import LoopLowering.Proofs.Settings.Environment
import LoopLowering.Proofs.CommandLine.Checking
import LoopLowering.Proofs.Platform.Validation
import LoopLowering.Proofs.Options.Assignment
import LoopLowering.Proofs.Pass.Filing
import LoopLowering.Proofs.Ledger.Search
import LoopLowering.Proofs.Tree.Address
import LoopLowering.Proofs.Tree.Visits
import LoopLowering.Proofs.Tree.Listing
import LoopLowering.Proofs.Pass.Insertion
