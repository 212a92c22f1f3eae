import Marginalia.Command.Parser
import Marginalia.Command.Program
import Marginalia.Command.Usage
import Marginalia.Comment.Line
import Marginalia.Comment.Syntax
import Marginalia.Files.Fault
import Marginalia.Files.FileSystem
import Marginalia.Files.Workspace
import Marginalia.Html.Escape
import Marginalia.Html.Page
import Marginalia.Html.Row
import Marginalia.Main
import Marginalia.Markdown.Autolink
import Marginalia.Markdown.Block
import Marginalia.Markdown.BlockParser
import Marginalia.Markdown.Character
import Marginalia.Markdown.Cursor
import Marginalia.Markdown.Emphasis
import Marginalia.Markdown.Entity
import Marginalia.Markdown.Html
import Marginalia.Markdown.Inline
import Marginalia.Markdown.InlineParser
import Marginalia.Markdown.Link
import Marginalia.Markdown.OpenBlock
import Marginalia.Markdown.RawHtml
import Marginalia.Markdown.Table
import Marginalia.Path
import Marginalia.Pattern.Basic
import Marginalia.Pattern.CharClass
import Marginalia.Pattern.Parser
import Marginalia.Pattern.Program
import Marginalia.Prologue
import Marginalia.Run.Basic
import Marginalia.Run.Configuration
import Marginalia.Run.Document
import Marginalia.Run.Failure
import Marginalia.Section
import Marginalia.Segmenter
import Marginalia.Text.Basic
import Marginalia.Text.Json
import Marginalia.Text.Utf8
import Marginalia.Unicode.CaseFolding
import Marginalia.Unicode.Category
import Marginalia.Unicode.CodePointSet
import Marginalia.Unicode.Property
import Marginalia.Unicode.Script
import Marginalia.Proofs.Segmentation.Columns
import Marginalia.Proofs.Segmentation.Slices
import Marginalia.Proofs.Segmentation.CodeLines
import Marginalia.Proofs.Segmentation.Manuscript
import Marginalia.Proofs.Text.Lines
import Marginalia.Proofs.Text.Utf8
import Marginalia.Proofs.Path.Spelling
import Marginalia.Proofs.Path.Links
import Marginalia.Proofs.Html.Markup
import Marginalia.Proofs.Html.Unescape
import Marginalia.Proofs.Html.Readback
import Marginalia.Proofs.Files.Growth
import Marginalia.Proofs.Files.Changes
import Marginalia.Proofs.Run.Outcome
import Marginalia.Proofs.Run.Documents
import Marginalia.Proofs.Run.Collection
import Marginalia.Proofs.Run.Trace
import Marginalia.Proofs.Run.Placement
import Marginalia.Proofs.Run.FailFast
import Marginalia.Proofs.Run.Sources
import Marginalia.Proofs.Run.Agreement
import Marginalia.Proofs.Segmentation.Continuation
import Marginalia.Proofs.Prologue.Builtin
import Marginalia.Proofs.Segmentation.LineEndings
import Marginalia.Proofs.Command.Call
import Marginalia.Proofs.Text.Json
import Marginalia.Proofs.Run.Listings
import Marginalia.Proofs.Path.References
import Marginalia.Proofs.Run.NormalForms
import Marginalia.Proofs.Pattern.Matching
import Marginalia.Proofs.Pattern.Reading
import Marginalia.Proofs.Prologue.Anchoring
import Marginalia.Proofs.Path.Pages
import Marginalia.Proofs.Segmentation.Markers
import Marginalia.Proofs.Text.Occurrences
import Marginalia.Proofs.Text.RawLines
import Marginalia.Proofs.Run.RawContents
import Marginalia.Proofs.Html.Anchors
