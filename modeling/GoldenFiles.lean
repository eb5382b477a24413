import GoldenFiles.Main
import GoldenFiles.Proofs.CommandLine.Arguments
import GoldenFiles.Proofs.Diff.Elision
import GoldenFiles.Proofs.Diff.FinalNewline
import GoldenFiles.Proofs.Discovery.Identities
import GoldenFiles.Proofs.Discovery.Labels
import GoldenFiles.Proofs.Report.Colours
import GoldenFiles.Proofs.Report.Signals
import GoldenFiles.Proofs.Run.Baselines
import GoldenFiles.Proofs.Run.Counting
import GoldenFiles.Proofs.Run.Feedback
import GoldenFiles.Proofs.Run.FullSink
import GoldenFiles.Proofs.Run.Outputs
import GoldenFiles.Proofs.Run.Selection
import GoldenFiles.Proofs.Sexp.Columns
import GoldenFiles.Proofs.Sexp.Comments
import GoldenFiles.Proofs.Sexp.Leaves
import GoldenFiles.FileSystem.Preparation
