import Tincture.Pattern.ByteScan
import Tincture.Tokens.Bytes
import Tincture.Main
import Tincture.Proofs.Document.Pass
import Tincture.Proofs.Text.BrokenLines
import Tincture.Proofs.Document.Edit
import Tincture.Proofs.Document.Fitted
import Tincture.Proofs.Document.History
import Tincture.Proofs.Document.Right
import Tincture.Proofs.Document.Retokenization
import Tincture.Proofs.Document.EditCost
import Tincture.Proofs.Tokens.Painted
import Tincture.Proofs.Tokens.Steps
import Tincture.Proofs.Grammar.Numbering
import Tincture.Proofs.Tokens.LineTokens
import Tincture.Proofs.Tokens.StackEquality
import Tincture.Proofs.Grammar.RuleTable
import Tincture.Proofs.Tokens.Moves
import Tincture.Proofs.Tokens.Begun
import Tincture.Proofs.Theme.DottedPrefixes
import Tincture.Proofs.Tokens.OpenRegions
import Tincture.Proofs.Theme.MostSpecific
import Tincture.Proofs.Grammar.Includes
import Tincture.Proofs.Grammar.Places
import Tincture.Proofs.Grammar.WalkBound
import Tincture.Proofs.Grammar.Groups
import Tincture.Proofs.Grammar.EndlessIncludes
import Tincture.Proofs.Grammar.Computed
import Tincture.Proofs.Text.Trimming
import Tincture.Proofs.Format.BlankRuns
import Tincture.Proofs.Format.Collapsing
import Tincture.Proofs.Format.RawBlocks
import Tincture.Proofs.Format.Wrapping
import Tincture.Proofs.Format.ImportItems
import Tincture.Proofs.Format.LineStarts
import Tincture.Proofs.Format.LaidOut
import Tincture.Proofs.Format.Printed
import Tincture.Proofs.Format.Characters
import Tincture.Proofs.Format.Verbatim
import Tincture.Proofs.Format.OutsideRaw
import Tincture.Proofs.Format.UncountedRuns
import Tincture.Proofs.Format.NormalForm
import Tincture.Proofs.Format.ReadAgain
import Tincture.Proofs.Format.Convergence
import Tincture.Proofs.Grammar.ClosedTable
import Tincture.Proofs.Grammar.AskedOnce
import Tincture.Proofs.Document.Highlighted
import Tincture.Proofs.Format.Sessions
import Tincture.Proofs.Editor.ActiveTheme
import Tincture.Proofs.Data.FilledTables
import Tincture.Proofs.Editor.LanguageSetup
import Tincture.Proofs.Grammar.Reached
import Tincture.Proofs.Grammar.FirstDeclared
import Tincture.Proofs.Grammar.Bindings
import Tincture.Proofs.Tokens.FirstMatch
import Tincture.Proofs.Tokens.CapturedGroups
import Tincture.Proofs.Tokens.Conditions
import Tincture.Proofs.Tokens.OpenedHere
import Tincture.Proofs.Text.EscapeClosed
import Tincture.Proofs.Grammar.BackReferences
import Tincture.Proofs.Pattern.Expanded
import Tincture.Proofs.Theme.FirstColoured
import Tincture.Proofs.Document.LinesBefore
import Tincture.Proofs.Format.SortedImports
import Tincture.Proofs.Document.Columns
import Tincture.Proofs.Format.Comments
import Tincture.Proofs.Format.CommentParts
import Tincture.Proofs.Format.CommentsKept
import Tincture.Proofs.Format.GreedyWrapping
import Tincture.Proofs.Theme.ColorTexts
import Tincture.Proofs.Language.WrittenConfigurations
import Tincture.Proofs.Grammar.WrittenGrammars
import Tincture.Proofs.Theme.NormalColors
import Tincture.Proofs.Config.LayeredLanguages
import Tincture.Proofs.Grammar.GroupNames
