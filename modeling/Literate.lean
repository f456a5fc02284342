import Literate.Block.Basic
import Literate.Block.CommentBuffer
import Literate.Block.Directive
import Literate.Block.Grouping
import Literate.Command.Arguments
import Literate.Command.Files
import Literate.Command.Help
import Literate.Command.Log
import Literate.Command.Path
import Literate.Command.Run
import Literate.Command.Trace
import Literate.Config
import Literate.Diagnostic
import Literate.Dict
import Literate.Document.Assembly
import Literate.Document.Basic
import Literate.Document.Link
import Literate.Document.Node
import Literate.Document.Outline
import Literate.Document.Reading
import Literate.Main
import Literate.Markdown.Bracket
import Literate.Markdown.Container
import Literate.Markdown.Cursor
import Literate.Markdown.Emphasis
import Literate.Markdown.Entity
import Literate.Markdown.Event
import Literate.Markdown.Html
import Literate.Markdown.Layout
import Literate.Markdown.Mark
import Literate.Markdown.Marker
import Literate.Markdown.Passage
import Literate.Markdown.Reader
import Literate.Markdown.Scan
import Literate.Markdown.Target
import Literate.Markdown.Tree
import Literate.Proofs.Block.Accounting
import Literate.Proofs.Block.BlankLines
import Literate.Proofs.Block.CodeBehind
import Literate.Proofs.Block.Collecting
import Literate.Proofs.Block.CommentBuffer
import Literate.Proofs.Block.CommentExtent
import Literate.Proofs.Block.Content
import Literate.Proofs.Block.CutPoint
import Literate.Proofs.Block.DirectiveGrammar
import Literate.Proofs.Block.DirectiveNesting
import Literate.Proofs.Block.DirectiveText
import Literate.Proofs.Block.Grouped
import Literate.Proofs.Block.Opener
import Literate.Proofs.Block.Recoding
import Literate.Proofs.Block.RoundTrip
import Literate.Proofs.Command.Verdict
import Literate.Proofs.Dict
import Literate.Proofs.Document.DirectiveLines
import Literate.Proofs.Document.Directives
import Literate.Proofs.Document.DisabledCode
import Literate.Proofs.Document.ErrorPlace
import Literate.Proofs.Document.LineEndings
import Literate.Proofs.Document.LinkMerge
import Literate.Proofs.Document.LinkSpelling
import Literate.Proofs.Document.LinkTable
import Literate.Proofs.Document.ReadingOrder
import Literate.Proofs.Document.Recoding
import Literate.Proofs.Document.References
import Literate.Proofs.Except
import Literate.Proofs.Markdown.Collecting
import Literate.Proofs.Markdown.EventStream
import Literate.Proofs.Script.Activity
import Literate.Proofs.Script.CodePlace
import Literate.Proofs.Script.CodeStep
import Literate.Proofs.Script.CommentLines
import Literate.Proofs.Script.Concatenation
import Literate.Proofs.Script.ConditionGrammar
import Literate.Proofs.Script.ConditionReading
import Literate.Proofs.Script.ConditionSpelling
import Literate.Proofs.Script.ConditionWriting
import Literate.Proofs.Script.Cut
import Literate.Proofs.Script.Faultless
import Literate.Proofs.Script.LiteralExtent
import Literate.Proofs.Script.Lossless
import Literate.Proofs.Script.MarkBalance
import Literate.Proofs.Script.Nesting
import Literate.Proofs.Script.OpenEnd
import Literate.Proofs.Script.Place
import Literate.Proofs.Script.Recoding
import Literate.Proofs.Script.RelevantSymbols
import Literate.Proofs.Script.Relocation
import Literate.Proofs.Script.Reported
import Literate.Proofs.Script.Spaced
import Literate.Proofs.Text.Break
import Literate.Proofs.Text.FinalSigma
import Literate.Proofs.Text.LowerCase
import Literate.Proofs.Text.Occurrence
import Literate.Proofs.Text.Terminator
import Literate.Proofs.Text.Trim
import Literate.Proofs.Text.Words
import Literate.Report.Frame
import Literate.Report.Outline
import Literate.Script.Branch
import Literate.Script.Code
import Literate.Script.Condition
import Literate.Script.Line
import Literate.Script.Literal
import Literate.Script.Nesting
import Literate.Script.Symbols
import Literate.Script.Token
import Literate.Script.Tokenized
import Literate.Text.Basic
import Literate.Text.Blank
import Literate.Text.Digits
import Literate.Text.FoldCase
import Literate.Text.Letter
import Literate.Text.LowerCase
import Literate.Text.Printable
import Literate.Text.Punctuation
import Literate.Text.Width
import Literate.Toml.Document
import Literate.Toml.Fault
import Literate.Toml.Quoted
import Literate.Toml.Token
import Literate.Toml.Value
