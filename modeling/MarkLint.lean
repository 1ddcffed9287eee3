import MarkLint.Editor
import MarkLint.Main
import MarkLint.Proofs.Location
import MarkLint.Proofs.Document.Columns
import MarkLint.Proofs.Document.Sheet
import MarkLint.Proofs.Node.Forest
import MarkLint.Proofs.Document.Placed
import MarkLint.Proofs.Document.FrontMatter
import MarkLint.Proofs.Document.Placement
import MarkLint.Proofs.Rule.Anchor
import MarkLint.Proofs.Text.Numeral
import MarkLint.Proofs.Rule.Language
import MarkLint.Proofs.Rule.Quotes
import MarkLint.Proofs.Rule.Safety
import MarkLint.Proofs.Suppression.Comment
import MarkLint.Proofs.Suppression.Coverage
import MarkLint.Proofs.Document.Nested
import MarkLint.Proofs.Document.Order
import MarkLint.Proofs.Rule.Order
import MarkLint.Proofs.Location.Correspondence
import MarkLint.Proofs.Document.Prefix
import MarkLint.Proofs.Text.Breaks
import MarkLint.Proofs.Document.ReaderLines
import MarkLint.Proofs.Location.Returns
import MarkLint.Proofs.Node.MapPoints
import MarkLint.Proofs.Document.Returns
import MarkLint.Proofs.Rule.Returns
import MarkLint.Proofs.Analysis.Returns
import MarkLint.Proofs.Sorting
import MarkLint.Proofs.Rule.Protocol
import MarkLint.Proofs.Analysis.Isolation
import MarkLint.Proofs.Config.Names
import MarkLint.Proofs.Config.DeadEntries
import MarkLint.Proofs.Rule.Consistent
import MarkLint.Proofs.Suppression.Written
import MarkLint.Proofs.Suppression.Alone
import MarkLint.Proofs.Document.Faults
import MarkLint.Proofs.Document.Shape
import MarkLint.Proofs.Editor.Marks
import MarkLint.Proofs.Editor.Session
import MarkLint.Proofs.Markdown.Parts
import MarkLint.Proofs.Markdown.Blocks
import MarkLint.Proofs.Document.Readable
import MarkLint.Proofs.Document.HiddenLines
import MarkLint.Proofs.Json
import MarkLint.Proofs.Command.Files
import MarkLint.Proofs.Command.Report
import MarkLint.Proofs.Command.Run
import MarkLint.Proofs.Document.Spots
import MarkLint.Proofs.Rule.CodeStyle
import MarkLint.Proofs.Document.Tasks
import MarkLint.Proofs.Rule.TaskSpacing
import MarkLint.Proofs.Rule.Duplicates
import MarkLint.Proofs.Rule.Options
import MarkLint.Proofs.Document.CodeColumn
import MarkLint.Proofs.Rule.QuoteIndent
import MarkLint.Proofs.Document.Labels
import MarkLint.Proofs.Config.RuleTables
import MarkLint.Proofs.Config.Loading
import MarkLint.Proofs.Files.MarkdownName
import MarkLint.Proofs.Files.PathText
import MarkLint.Proofs.Command.Search
import MarkLint.Proofs.Command.Changes
import MarkLint.Proofs.Editor.Units
import MarkLint.Proofs.Document.Fields
import MarkLint.Proofs.Document.Unplaced
import MarkLint.Proofs.Rule.LongHeadings
import MarkLint.Proofs.Style.Inference
import MarkLint.Proofs.Node.Rounds
import MarkLint.Proofs.Node.PlainText
