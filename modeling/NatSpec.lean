import NatSpec.Contract.Written
import NatSpec.Main
import NatSpec.Output.Json
import NatSpec.Proofs.Abi.Lossless
import NatSpec.Proofs.Command.Agreement
import NatSpec.Proofs.Command.Confined
import NatSpec.Proofs.Command.Emit
import NatSpec.Proofs.Comment.Appending
import NatSpec.Proofs.Comment.Blocks
import NatSpec.Proofs.Comment.Heads
import NatSpec.Proofs.Contract.Bare
import NatSpec.Proofs.Contract.Damaged
import NatSpec.Proofs.Contract.RoundTrip
import NatSpec.Proofs.Contract.Sizes
import NatSpec.Proofs.Documents.DevDoc
import NatSpec.Proofs.Documents.Failures
import NatSpec.Proofs.Documents.UserDoc
import NatSpec.Proofs.Files.Children
import NatSpec.Proofs.Files.Directories
import NatSpec.Proofs.Files.OutputPaths
import NatSpec.Proofs.Interface.Unambiguous
import NatSpec.Proofs.Json.Grammar
import NatSpec.Proofs.Outcome
import NatSpec.Proofs.Outputs.Blame
import NatSpec.Proofs.Settings.Layering
import NatSpec.Proofs.Text.Delimited
import NatSpec.Proofs.Tree.Compact
import NatSpec.Proofs.Tree.History
import NatSpec.Proofs.Tree.ReadBack
import NatSpec.Proofs.Tree.Spacing
import NatSpec.Proofs.Json.Forms
import NatSpec.Proofs.Json.Skipping
import NatSpec.Proofs.Json.Changes
import NatSpec.Proofs.Json.ChangedRecords
import NatSpec.Proofs.Contract.Restyled
import NatSpec.Proofs.Comment.Rounds
import NatSpec.Proofs.Comment.Boundaries
import NatSpec.Proofs.Contract.Overloads
import NatSpec.Proofs.Documents.Methods
import NatSpec.Proofs.Contract.Assembled
import NatSpec.Proofs.Interface.Appending
import NatSpec.Proofs.Report
import NatSpec.Proofs.Settings.Origins
import NatSpec.Proofs.Comment.Cursor
import NatSpec.Proofs.Outputs.Names
import NatSpec.Proofs.Comment.Bounds
