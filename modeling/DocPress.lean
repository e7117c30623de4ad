import DocPress.Binary
import DocPress.Calendar
import DocPress.Cli.Arguments
import DocPress.Cli.Command
import DocPress.Cli.Help
import DocPress.Cli.Message
import DocPress.Decimal
import DocPress.Diagnostics
import DocPress.Disk
import DocPress.Disk.Fault
import DocPress.Dispatcher
import DocPress.Dispatcher.Rehearsal
import DocPress.Dispatcher.Threads
import DocPress.Document
import DocPress.Document.Format
import DocPress.Document.Reading
import DocPress.DocumentFormat
import DocPress.Engine
import DocPress.Engine.Echo
import DocPress.ErrorGraph
import DocPress.ErrorKind
import DocPress.Evaluation
import DocPress.ExtensionNames
import DocPress.Failure
import DocPress.FrontMatter
import DocPress.Main
import DocPress.Markdown.Definitions
import DocPress.Markdown.AttributeList
import DocPress.Markdown.Block.Declaration
import DocPress.Markdown.Block.Plain
import DocPress.Markdown.Block.Item
import DocPress.Markdown.Block.Marked
import DocPress.Markdown.Block.Rule
import DocPress.Markdown.Block.Table
import DocPress.Markdown.Block.Tree
import DocPress.Markdown.CharacterName
import DocPress.Markdown.Contents
import DocPress.Markdown.Engine
import DocPress.Markdown.Dialect
import DocPress.Markdown.Element
import DocPress.Markdown.Fence
import DocPress.Markdown.Footnote
import DocPress.Markdown.Layout
import DocPress.Markdown.Pattern
import DocPress.Markdown.Piece
import DocPress.Markdown.Printer
import DocPress.Markdown.RawBlock
import DocPress.Markdown.Source
import DocPress.Markdown.Span.Markup
import DocPress.Markdown.Span.Emphasis
import DocPress.Markdown.Span.Link
import DocPress.Markdown.Span.Rule
import DocPress.Markdown.Span.Tree
import DocPress.Markdown.Tag
import DocPress.Options
import DocPress.Options.Validation
import DocPress.Path
import DocPress.Plugin
import DocPress.Plugin.Samples
import DocPress.Processor
import DocPress.Renderer
import DocPress.Text.AsciiForm
import DocPress.Text.Blank
import DocPress.Text.CharClass
import DocPress.Text.Utf8
import DocPress.Text.Encoding
import DocPress.Text.Lines
import DocPress.Text.LowerCase
import DocPress.Text.Quoted
import DocPress.Text.Search
import DocPress.Text.Utf16
import DocPress.Value
import DocPress.Value.Convert
import DocPress.Value.Mapping
import DocPress.Value.Printer
import DocPress.Yaml.Content
import DocPress.Yaml.Cursor
import DocPress.Yaml.Fault
import DocPress.Yaml.Graph
import DocPress.Yaml.Number
import DocPress.Yaml.Scalar
import DocPress.Yaml.Tag
import DocPress.Yaml.Token.BlockText
import DocPress.Yaml.Token.FlowText
import DocPress.Yaml.Token.Lexer
import DocPress.Yaml.Token.Property
import DocPress.Proofs.Dispatcher.Run
import DocPress.Proofs.Dispatcher.Ledger
import DocPress.Proofs.Dispatcher.Slots
import DocPress.Proofs.Dispatcher.Interleaving
import DocPress.Proofs.FrontMatter.Taking
import DocPress.Proofs.Dispatcher.OneShot
import DocPress.Proofs.Processor.Modes
import DocPress.Proofs.Evaluation.Partition
import DocPress.Proofs.FrontMatter.Assembly
import DocPress.Proofs.FrontMatter.Endings
import DocPress.Proofs.Document.Classification
import DocPress.Proofs.Processor.Conversion
import DocPress.Proofs.Dispatcher.EngineCalls
import DocPress.Proofs.Cli.Compiling
import DocPress.Proofs.Disk.Writing
import DocPress.Proofs.Cli.Agreement
import DocPress.Proofs.Cli.FailurePolicy
import DocPress.Proofs.Text.LowerCase
import DocPress.Proofs.Options.ReadingBack
import DocPress.Proofs.Evaluation.Composition
import DocPress.Proofs.Processor.Failing
import DocPress.Proofs.Document.Resolution
import DocPress.Proofs.FrontMatter.Totality
import DocPress.Proofs.Yaml.Composing
import DocPress.Proofs.Processor.Course
import DocPress.Proofs.Processor.Halting
import DocPress.Proofs.Value.Updating
import DocPress.Proofs.Processor.Finishing
import DocPress.Proofs.Document.Matching
import DocPress.Proofs.FrontMatter.Noting
import DocPress.Proofs.Options.FieldByField
import DocPress.Proofs.Evaluation.Stability
import DocPress.Proofs.ExtensionNames.Grouping
import DocPress.Proofs.Processor.Extensions
import DocPress.Proofs.ErrorGraph.Walking
import DocPress.Proofs.Text.Headline
import DocPress.Proofs.ErrorGraph.Messages
import DocPress.Proofs.Cli.CauseChain
import DocPress.Proofs.FrontMatter.Shortening
import DocPress.Proofs.Text.Utf8
import DocPress.Proofs.Processor.Encoding
