import Marginalia.Html.Escape
import Marginalia.Markdown.Html
import Marginalia.Section

/-!
# Rows of a page

A section becomes a row of two cells, its prose and its code.  Code is only escaped and marked with the
name of a brush, since the browser colours it.  Prose is either left for the browser to convert, or is
converted here.
-/

namespace Marginalia.Html

/-- Where prose is converted from Markdown: in the browser, or while the page is written. -/
inductive ProseMode where
  | client
  | server
  deriving DecidableEq, Repr

/-- The HTML of the two cells of a row. -/
structure Row where
  prose : Text
  code : Text
  deriving DecidableEq, Repr

/-- The brush that colours files with the given extension. -/
def brush (extension : Text) : Text :=
  if extension.isEmpty then "plain".toList else extension.toLowerAscii

/-- The cell of a section's code. -/
def codeCell (extension code : Text) : Text :=
  "<pre class=\"brush: ".toList ++ escape (brush extension) ++ "\">".toList ++ escape code ++
    "</pre>".toList

/-- The cell of a section's prose. -/
def proseCell : ProseMode → Text → Text
  | .client, comment => "<div class=\"doc\">".toList ++ escape comment ++ "</div>".toList
  | .server, comment =>
    "<div class=\"doc rendered\">".toList ++ Markdown.toHtml comment ++ "</div>".toList

/-- The row of a section in a file with the given extension. -/
def Row.ofSection (mode : ProseMode) (extension : Text) (part : Section) : Row where
  prose := proseCell mode part.comment
  code := codeCell extension part.code

end Marginalia.Html
