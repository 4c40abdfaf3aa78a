import HtmlText.Text.Blank
import HtmlText.Text.Word
import HtmlText.Text.Casing
import HtmlText.Text.Lines
import HtmlText.Text.Collapse
import HtmlText.Text.Tidy
import HtmlText.Source.Encoding
import HtmlText.Source.Mode
import HtmlText.Render
import HtmlText.Markup.Lexer
import HtmlText.Markup.Parse
import HtmlText.Converter
import HtmlText.Command.Run
import HtmlText.Main
import HtmlText.Proofs.GrownTree
import HtmlText.Proofs.RenderRecursion
import HtmlText.Proofs.HiddenContent
import HtmlText.Proofs.AppendHistory
import HtmlText.Proofs.CarriedText
import HtmlText.Proofs.LineCounts
import HtmlText.Proofs.Renumbering
import HtmlText.Proofs.Leaves
import HtmlText.Proofs.BlockLayout
import HtmlText.Proofs.EncodingTransparency
import HtmlText.Proofs.StrictConversion
import HtmlText.Proofs.ConverterHistory
import HtmlText.Proofs.EdgeLines
import HtmlText.Proofs.WhitespacePasses
import HtmlText.Proofs.CommandRun
import HtmlText.Proofs.Trailers
import HtmlText.Proofs.EscapedText
import HtmlText.Proofs.FragmentText
import HtmlText.Proofs.PlainText
import HtmlText.Proofs.MissingDoctype
import HtmlText.Proofs.Siblings
import HtmlText.Proofs.LineEnds
import HtmlText.Proofs.SourceMode
import HtmlText.Proofs.NormalForm
import HtmlText.Proofs.Subtrees
import HtmlText.Proofs.CaseMapping
import HtmlText.Proofs.Attributes
import HtmlText.Proofs.DocumentOrder
import HtmlText.Proofs.Traversal
import HtmlText.Proofs.Wrapping
import HtmlText.Proofs.Headings
import HtmlText.Proofs.BlankRuns
import HtmlText.Proofs.Indentation
import HtmlText.Proofs.BlankSources
