import LiveMarkdown.Calendar
import LiveMarkdown.CommandLine.Command
import LiveMarkdown.Console.Emoji
import LiveMarkdown.Console.Markup
import LiveMarkdown.Console.Notice
import LiveMarkdown.Document.Builder
import LiveMarkdown.Document.Charset
import LiveMarkdown.Document.Edit
import LiveMarkdown.Document.Entity
import LiveMarkdown.Document.Event
import LiveMarkdown.Document.Forest
import LiveMarkdown.Document.Selector.Basic
import LiveMarkdown.Document.Selector.Language
import LiveMarkdown.Document.Selector.Lexer
import LiveMarkdown.Document.Selector.Match
import LiveMarkdown.Document.Selector.Parser
import LiveMarkdown.Document.Writer
import LiveMarkdown.Exchange.Program
import LiveMarkdown.Fragment.Config
import LiveMarkdown.Fragment.Evaluator
import LiveMarkdown.Fragment.Executor
import LiveMarkdown.Fragment.Failure
import LiveMarkdown.Fragment.Program
import LiveMarkdown.Fragment.Recognition
import LiveMarkdown.Fragment.Report
import LiveMarkdown.Fragment.Result
import LiveMarkdown.Fragment.Walk
import LiveMarkdown.Main
import LiveMarkdown.Metadata.FrontMatter
import LiveMarkdown.Metadata.Graph
import LiveMarkdown.Metadata.Lexer
import LiveMarkdown.Metadata.Scalar
import LiveMarkdown.Metadata.Value
import LiveMarkdown.Number.Binary
import LiveMarkdown.Number.Decimal
import LiveMarkdown.Number.Elementary
import LiveMarkdown.Number.Scaled
import LiveMarkdown.Number.Total
import LiveMarkdown.Page
import LiveMarkdown.Proofs.Assembly
import LiveMarkdown.Proofs.Causes
import LiveMarkdown.Proofs.Construction
import LiveMarkdown.Proofs.Cursor
import LiveMarkdown.Proofs.Designation
import LiveMarkdown.Proofs.Discretion
import LiveMarkdown.Proofs.Extensions
import LiveMarkdown.Proofs.FrontMatter
import LiveMarkdown.Proofs.Journal
import LiveMarkdown.Proofs.Markers
import LiveMarkdown.Proofs.Newlines
import LiveMarkdown.Proofs.OptIn
import LiveMarkdown.Proofs.Presence
import LiveMarkdown.Proofs.Refusal
import LiveMarkdown.Proofs.Rejection
import LiveMarkdown.Proofs.Representation
import LiveMarkdown.Proofs.Returning
import LiveMarkdown.Proofs.Shapes
import LiveMarkdown.Proofs.Splice
import LiveMarkdown.Proofs.StarImport
import LiveMarkdown.Proofs.Switch
import LiveMarkdown.Proofs.Undisturbed
import LiveMarkdown.Proofs.Verbatim
import LiveMarkdown.Proofs.Wrapper
import LiveMarkdown.Prose.AttributeList
import LiveMarkdown.Prose.Block.Basic
import LiveMarkdown.Prose.Block.Document
import LiveMarkdown.Prose.Block.Leaf
import LiveMarkdown.Prose.Block.Listing
import LiveMarkdown.Prose.Block.Note
import LiveMarkdown.Prose.Block.Table
import LiveMarkdown.Prose.Contents
import LiveMarkdown.Prose.Enclosed
import LiveMarkdown.Prose.Extension
import LiveMarkdown.Prose.Fence
import LiveMarkdown.Prose.Footnote
import LiveMarkdown.Prose.Inline.Atom
import LiveMarkdown.Prose.Inline.Basic
import LiveMarkdown.Prose.Inline.Emphasis
import LiveMarkdown.Prose.Inline.Link
import LiveMarkdown.Prose.Inline.Passes
import LiveMarkdown.Prose.Piece
import LiveMarkdown.Prose.RawBlock
import LiveMarkdown.Prose.Setup
import LiveMarkdown.Prose.Typography
import LiveMarkdown.Prose.Writer
import LiveMarkdown.Script.Arithmetic
import LiveMarkdown.Script.Attribute
import LiveMarkdown.Script.Binding
import LiveMarkdown.Script.Builtin
import LiveMarkdown.Script.ByteView
import LiveMarkdown.Script.Call
import LiveMarkdown.Script.Check.Pattern
import LiveMarkdown.Script.Check.Placement
import LiveMarkdown.Script.Check.Symbol
import LiveMarkdown.Script.Comparison
import LiveMarkdown.Script.Construct
import LiveMarkdown.Script.Convert
import LiveMarkdown.Script.Day
import LiveMarkdown.Script.Digest
import LiveMarkdown.Script.Element
import LiveMarkdown.Script.Encoded
import LiveMarkdown.Script.Execution
import LiveMarkdown.Script.Expression
import LiveMarkdown.Script.FilePath
import LiveMarkdown.Script.Format
import LiveMarkdown.Script.Grammar.Argument
import LiveMarkdown.Script.Grammar.Atom
import LiveMarkdown.Script.Grammar.Basic
import LiveMarkdown.Script.Grammar.Expression
import LiveMarkdown.Script.Grammar.Parameter
import LiveMarkdown.Script.Grammar.Pattern
import LiveMarkdown.Script.Grammar.Program
import LiveMarkdown.Script.Grammar.Rule
import LiveMarkdown.Script.Grammar.Statement
import LiveMarkdown.Script.Grammar.Target
import LiveMarkdown.Script.Grammar.Text
import LiveMarkdown.Script.Group
import LiveMarkdown.Script.Hierarchy
import LiveMarkdown.Script.Import
import LiveMarkdown.Script.Iteration
import LiveMarkdown.Script.Kind
import LiveMarkdown.Script.Lexer
import LiveMarkdown.Script.Literal
import LiveMarkdown.Script.LiveAttributes
import LiveMarkdown.Script.Machine
import LiveMarkdown.Script.Match
import LiveMarkdown.Script.Mathematics
import LiveMarkdown.Script.Member
import LiveMarkdown.Script.Method.Argument
import LiveMarkdown.Script.Method.Bytes
import LiveMarkdown.Script.Method.Collection
import LiveMarkdown.Script.Method.Generator
import LiveMarkdown.Script.Method.Markup
import LiveMarkdown.Script.Method.Node
import LiveMarkdown.Script.Method.Number
import LiveMarkdown.Script.Method.Sequence
import LiveMarkdown.Script.Method.Special
import LiveMarkdown.Script.Method.Text
import LiveMarkdown.Script.Method.Tree
import LiveMarkdown.Script.Names
import LiveMarkdown.Script.Native
import LiveMarkdown.Script.Node
import LiveMarkdown.Script.Operator
import LiveMarkdown.Script.Part
import LiveMarkdown.Script.Percent
import LiveMarkdown.Script.Raised
import LiveMarkdown.Script.Request
import LiveMarkdown.Script.Resume
import LiveMarkdown.Script.Scope
import LiveMarkdown.Script.Search
import LiveMarkdown.Script.Show
import LiveMarkdown.Script.Sorting
import LiveMarkdown.Script.Statement
import LiveMarkdown.Script.Subscript
import LiveMarkdown.Script.Syntax
import LiveMarkdown.Script.SyntaxFault
import LiveMarkdown.Script.Target
import LiveMarkdown.Script.Template
import LiveMarkdown.Script.Value
import LiveMarkdown.Script.Variable
import LiveMarkdown.Script.Waiting
import LiveMarkdown.Script.World
import LiveMarkdown.Script.Wrapped
import LiveMarkdown.Script.Written
import LiveMarkdown.Source.Cursor
import LiveMarkdown.Text.Alphabet
import LiveMarkdown.Text.Blank
import LiveMarkdown.Text.Case
import LiveMarkdown.Text.CharacterName
import LiveMarkdown.Text.CodePage
import LiveMarkdown.Text.Compatibility
import LiveMarkdown.Text.Cut
import LiveMarkdown.Text.Encoding
import LiveMarkdown.Text.Identifier
import LiveMarkdown.Text.Path
import LiveMarkdown.Text.Quoted
import LiveMarkdown.Text.Range
import LiveMarkdown.Text.Search
import LiveMarkdown.Text.Unicode
