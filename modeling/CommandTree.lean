import CommandTree.Inspection
import CommandTree.Main
import CommandTree.Proofs.Definition.Layout
import CommandTree.Proofs.Definition.Roots
import CommandTree.Proofs.Dispatch.Authorisation
import CommandTree.Proofs.Dispatch.Overloads
import CommandTree.Proofs.Dispatch.SingleAnswer
import CommandTree.Proofs.Matching.Typed
import CommandTree.Proofs.Visibility.Dispatch
import CommandTree.Recipe.Hook
import CommandTree.Recipe.Provider
import CommandTree.Recipe.Type
import CommandTree.Proofs.Manager.RootTable
import CommandTree.Proofs.Manager.Names
import CommandTree.Proofs.Completion.Offers
import CommandTree.Proofs.Completion.TypedTokens
import CommandTree.Proofs.Line.Quoting
import CommandTree.Proofs.Definition.Concatenation
import CommandTree.Proofs.Definition.Registration
import CommandTree.Proofs.Definition.Refusal
import CommandTree.Proofs.Definition.Tidying
import CommandTree.Proofs.Definition.Reordering
import CommandTree.Proofs.Matching.Reach
import CommandTree.Proofs.Matching.Counting
import CommandTree.Proofs.Matching.Earliest
import CommandTree.Proofs.Matching.Items
import CommandTree.Proofs.Matching.Checked
import CommandTree.Proofs.Matching.Cursor
import CommandTree.Proofs.Definition.Parenthesis
import CommandTree.Proofs.Definition.Marks
import CommandTree.Proofs.Definition.ReadBack
import CommandTree.Proofs.Definition.Splitting
import CommandTree.Proofs.Definition.HelpText
import CommandTree.Proofs.Definition.Written
import CommandTree.Proofs.Binding.Extent
import CommandTree.Proofs.Completion.OwnPrefix
import CommandTree.Proofs.Help
import CommandTree.Proofs.Line.Typing
