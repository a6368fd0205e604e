import AttributePins.Main
import AttributePins.Program
import AttributePins.Proofs.Block.Reading
import AttributePins.Proofs.Block.Trace
import AttributePins.Proofs.Text.ByteOrder
import AttributePins.Proofs.Index.History
import AttributePins.Proofs.Index.Pinning
import AttributePins.Proofs.Index.Records
import AttributePins.Proofs.Index.Forwarding
import AttributePins.Proofs.Program.Streams
import AttributePins.Proofs.Source.Order
import AttributePins.Proofs.Source.Loading
import AttributePins.Proofs.Program.Lookup
import AttributePins.Proofs.Text.Words
import AttributePins.Proofs.Text.Columns
import AttributePins.Proofs.Text.Width
import AttributePins.Proofs.Text.Splitting
import AttributePins.Proofs.Block.Convention
import AttributePins.Proofs.Text.Margins
import AttributePins.Proofs.Line.Margins
import AttributePins.Proofs.Line.ClassHeader
import AttributePins.Proofs.Line.Directive
import AttributePins.Proofs.Line.Marker
import AttributePins.Proofs.Text.Lines
import AttributePins.Proofs.FileSystem.Tree
import AttributePins.Proofs.FileSystem.Resolution
import AttributePins.Proofs.FileSystem.Deletion
import AttributePins.Proofs.FileSystem.Names
import AttributePins.Proofs.FileSystem.Walking
import AttributePins.Proofs.Discovery.Expansion
import AttributePins.Proofs.Discovery.Selection
import AttributePins.Proofs.Program.Isolation
import AttributePins.Proofs.Block.Layout
import AttributePins.Proofs.Block.Naming
import AttributePins.Proofs.Block.Commented
import AttributePins.Proofs.Path.Spelling
import AttributePins.Proofs.FileSystem.Descent
import AttributePins.Proofs.Discovery.Moves
import AttributePins.Proofs.Discovery.Origin
import AttributePins.Proofs.Discovery.Uniqueness
import AttributePins.Proofs.Discovery.Exclusion
import AttributePins.Proofs.Discovery.Relocation
import AttributePins.Proofs.Discovery.Reach
import AttributePins.Proofs.FileSystem.Rearrangement
import AttributePins.Proofs.Discovery.Algebra
import AttributePins.Proofs.Path.Ancestors
import AttributePins.Proofs.Config.Ascent
import AttributePins.Proofs.Config.Chain
import AttributePins.Proofs.Json.Strings
import AttributePins.Proofs.Config.RoundTrip
import AttributePins.Proofs.Json.Document
import AttributePins.Proofs.Json.RoundTrip
import AttributePins.Proofs.Json.Grammar
import AttributePins.Proofs.Config.Members
import AttributePins.Proofs.FileSystem.Addition
import AttributePins.Proofs.Program.Initialization
import AttributePins.Proofs.Report.ReadBack
import AttributePins.Proofs.Report.Table
import AttributePins.Proofs.Config.Document
import AttributePins.Proofs.CommandLine.Requests
