import MarkdownCheck.Anchor
import MarkdownCheck.CommandLine.Arguments
import MarkdownCheck.CommandLine.Reach
import MarkdownCheck.CommandLine.Run
import MarkdownCheck.CommandLine.Similar
import MarkdownCheck.Comment
import MarkdownCheck.Decimal.Binary64
import MarkdownCheck.Decimal.Shortest
import MarkdownCheck.Document
import MarkdownCheck.Document.OfText
import MarkdownCheck.Fence
import MarkdownCheck.Files.Path
import MarkdownCheck.Files.SizeLimit
import MarkdownCheck.Files.Tree
import MarkdownCheck.Files.Utf8
import MarkdownCheck.Files.Workspace
import MarkdownCheck.Finding
import MarkdownCheck.FrontMatter
import MarkdownCheck.Heading
import MarkdownCheck.Index
import MarkdownCheck.LineClass
import MarkdownCheck.Lint
import MarkdownCheck.LintFile
import MarkdownCheck.ListOutline
import MarkdownCheck.Log
import MarkdownCheck.Main
import MarkdownCheck.Markdown.Blank
import MarkdownCheck.Markdown.Block.Container
import MarkdownCheck.Markdown.Block.Definition
import MarkdownCheck.Markdown.Block.Line
import MarkdownCheck.Markdown.Block.Marker
import MarkdownCheck.Markdown.Block.Parse
import MarkdownCheck.Markdown.Block.Scope
import MarkdownCheck.Markdown.Block.Table
import MarkdownCheck.Markdown.Entity
import MarkdownCheck.Markdown.Html
import MarkdownCheck.Markdown.Inline.Emphasis
import MarkdownCheck.Markdown.Inline.Parse
import MarkdownCheck.Markdown.Inline.State
import MarkdownCheck.Markdown.Link.Address
import MarkdownCheck.Markdown.Link.Escaped
import MarkdownCheck.Markdown.Link.Label
import MarkdownCheck.Markdown.Link.Target
import MarkdownCheck.Pattern.Basic
import MarkdownCheck.Pattern.Named
import MarkdownCheck.Pattern.Span
import MarkdownCheck.Quote
import MarkdownCheck.Rule.AnchorCollision
import MarkdownCheck.Rule.Basic
import MarkdownCheck.Rule.Run
import MarkdownCheck.Settings.Basic
import MarkdownCheck.Settings.Check
import MarkdownCheck.Settings.Load
import MarkdownCheck.Slug
import MarkdownCheck.Text.Basic
import MarkdownCheck.Text.CaseBlind
import MarkdownCheck.Text.Escape
import MarkdownCheck.Text.Integer
import MarkdownCheck.Text.Lines
import MarkdownCheck.Token
import MarkdownCheck.Toml.Basic
import MarkdownCheck.Toml.Content
import MarkdownCheck.Toml.Date
import MarkdownCheck.Toml.Document
import MarkdownCheck.Toml.Number
import MarkdownCheck.Toml.Quoted
import MarkdownCheck.Toml.Table
import MarkdownCheck.Unicode.CaseFolding
import MarkdownCheck.Unicode.CombiningClass
import MarkdownCheck.Unicode.Composition
import MarkdownCheck.Unicode.Decomposition
import MarkdownCheck.Unicode.Digit
import MarkdownCheck.Unicode.Normal
import MarkdownCheck.Unicode.Packed
import MarkdownCheck.Unicode.Printable
import MarkdownCheck.Unicode.Symbol
import MarkdownCheck.Value
import MarkdownCheck.Proofs.ListOutline.Forest
import MarkdownCheck.Proofs.ListOutline.Preorder
import MarkdownCheck.Proofs.Fence.Run
import MarkdownCheck.Proofs.Comment.Blank
import MarkdownCheck.Proofs.Comment.Clear
import MarkdownCheck.Proofs.Comment.Idempotent
import MarkdownCheck.Proofs.Comment.Parts
import MarkdownCheck.Proofs.Fence.Scan
import MarkdownCheck.Proofs.Anchor.Claims
import MarkdownCheck.Proofs.Anchor.Collision
import MarkdownCheck.Proofs.Anchor.Numbering
import MarkdownCheck.Proofs.Anchor.Explicit
import MarkdownCheck.Proofs.Anchor.Growth
import MarkdownCheck.Proofs.Slug.Hyphens
import MarkdownCheck.Proofs.Slug.Letters
import MarkdownCheck.Proofs.Slug.Markers
import MarkdownCheck.Proofs.Log.Laws
import MarkdownCheck.Proofs.Rule.Offset
import MarkdownCheck.Proofs.Lint.FrontMatter
import MarkdownCheck.Proofs.Text.Lines
import MarkdownCheck.Proofs.Comment.LineStructure
import MarkdownCheck.Proofs.Document.LineTable
import MarkdownCheck.Proofs.FrontMatter.Lines
import MarkdownCheck.Proofs.Comment.Hidden
import MarkdownCheck.Proofs.Text.Crlf
import MarkdownCheck.Proofs.Comment.Crlf
import MarkdownCheck.Proofs.Lint.Crlf
import MarkdownCheck.Proofs.Slug.Canonical
import MarkdownCheck.Proofs.Fence.Nesting
import MarkdownCheck.Proofs.LineClass.Marks
import MarkdownCheck.Proofs.FrontMatter.Grammar
import MarkdownCheck.Proofs.Lookup
import MarkdownCheck.Proofs.Files.Utf8
import MarkdownCheck.Proofs.Settings.Entries
import MarkdownCheck.Proofs.Settings.Check
import MarkdownCheck.Proofs.Settings.Override
import MarkdownCheck.Proofs.Rule.Names
import MarkdownCheck.Proofs.Settings.Build
import MarkdownCheck.Proofs.Files.Erase
import MarkdownCheck.Proofs.Settings.Search
import MarkdownCheck.Proofs.Settings.Skip
import MarkdownCheck.Proofs.Lint.File
import MarkdownCheck.Proofs.Settings.Nearest
import MarkdownCheck.Proofs.ListOutline.Balance
import MarkdownCheck.Proofs.ListOutline.LastLine
import MarkdownCheck.Proofs.CommandLine.Options
import MarkdownCheck.Proofs.CommandLine.Sequence
import MarkdownCheck.Proofs.Document.InlineLines
import MarkdownCheck.Proofs.Rule.Order
import MarkdownCheck.Proofs.Rule.Reports
import MarkdownCheck.Proofs.Rule.SortPlan
import MarkdownCheck.Proofs.Anchor.AllOrNone
import MarkdownCheck.Proofs.Document.Snapshot
import MarkdownCheck.Proofs.Settings.Compose
import MarkdownCheck.Proofs.ListOutline.Containers
import MarkdownCheck.Proofs.Markdown.Column
import MarkdownCheck.Proofs.Markdown.Marker
import MarkdownCheck.Proofs.Markdown.ListNesting
import MarkdownCheck.Proofs.Document.ListIndent
import MarkdownCheck.Proofs.Text.Trim
import MarkdownCheck.Proofs.Text.Weave
import MarkdownCheck.Proofs.Heading.Style
import MarkdownCheck.Proofs.Pattern.Captures
import MarkdownCheck.Proofs.Pattern.Span
import MarkdownCheck.Proofs.Slug.Weight
import MarkdownCheck.Proofs.Slug.Preserved
import MarkdownCheck.Proofs.Quote.Strip
import MarkdownCheck.Proofs.Fence.Calls
