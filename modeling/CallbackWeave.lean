import CallbackWeave.CommandView
import CallbackWeave.CompileDatabase
import CallbackWeave.Main
import CallbackWeave.Pipeline.Rehearsal
import CallbackWeave.Proofs.Filter.Nesting
import CallbackWeave.Proofs.Filter.Refiltering
import CallbackWeave.Proofs.Pipeline.LongNames
import CallbackWeave.Proofs.Pipeline.Undisturbed
import CallbackWeave.Proofs.Pipeline.Protocol
import CallbackWeave.Proofs.Pipeline.Viewpoint
import CallbackWeave.Proofs.Pipeline.Preparation
import CallbackWeave.Proofs.Pipeline.Selection
import CallbackWeave.Proofs.Pipeline.Invariant
import CallbackWeave.Proofs.Pipeline.Skipped
import CallbackWeave.Proofs.Pipeline.Leftovers
import CallbackWeave.Proofs.Pipeline.LoadedDatabase
import CallbackWeave.Proofs.Pipeline.CallArguments
import CallbackWeave.Proofs.Pipeline.Commuting
import CallbackWeave.Proofs.CommandLine.Delivery
import CallbackWeave.Proofs.Pipeline.Accounting
import CallbackWeave.Proofs.Pipeline.Progress
import CallbackWeave.Proofs.Command.SourceToken
import CallbackWeave.Proofs.FileTree.Turning
import CallbackWeave.Proofs.Command.SourceIdentity
import CallbackWeave.Proofs.Command.RoundTrip
import CallbackWeave.Proofs.Command.Roles
import CallbackWeave.Proofs.Filter.MarkerGrammar
import CallbackWeave.Proofs.Filter.Revealing
import CallbackWeave.Proofs.Text.Replacement
import CallbackWeave.Proofs.Filter.Collapsing
import CallbackWeave.Proofs.FileTree.Folded
import CallbackWeave.Proofs.Command.LexicalIdentity
import CallbackWeave.Proofs.Path.Inside
import CallbackWeave.Proofs.ListFile.Existing
import CallbackWeave.Proofs.ListFile.Spelling
import CallbackWeave.Proofs.Pipeline.ArtifactNames
import CallbackWeave.Proofs.Command.Database
