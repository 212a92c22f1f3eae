import Marginalia.Markdown.BlockParser
import Marginalia.Markdown.InlineParser
import Marginalia.Text.Utf8

/-!
# Documents as HTML

Rendering first gives a list of pieces, in which a block can ask to start on a new line; laying the
pieces out then adds a line feed where the text before does not end with one.  Raw HTML is left out,
and so are link targets that could run code.
-/

namespace Marginalia.Markdown

/-- A piece of output. -/
inductive Output where
  | text (content : Text)
  | newLine

namespace Output

/-- Lay pieces out; `atStart` says that the output so far is empty or ends with a line feed. -/
def layoutFrom (atStart : Bool) : List Output → Text
  | [] => []
  | text content :: rest =>
    content ++ layoutFrom (content.getLast?.elim atStart (· == '\n')) rest
  | newLine :: rest => if atStart then layoutFrom true rest else '\n' :: layoutFrom true rest

/-- Lay pieces out. -/
def layout (pieces : List Output) : Text :=
  layoutFrom true pieces

/-- A fixed text. -/
def markup (content : String) : Output :=
  text content.toList

end Output

open Output (markup)

/-- A text with the characters that markup and attribute values reserve written as references. -/
def escapeText (content : Text) : Text :=
  content.flatMap fun c =>
    if c = '&' then "&amp;".toList
    else if c = '<' then "&lt;".toList
    else if c = '>' then "&gt;".toList
    else if c = quotation then "&quot;".toList
    else [c]

/-- A digit in base sixteen. -/
def hexDigit (n : Nat) : Char :=
  if n < 10 then Char.ofNat (0x30 + n) else Char.ofNat (0x41 + (n - 10))

/-- A byte as a percent sign and two digits. -/
def percent (byte : UInt8) : Text :=
  ['%', hexDigit (byte.toNat / 16), hexDigit (byte.toNat % 16)]

/-- A link target as an attribute value. -/
def escapeDestination (destination : Text) : Text :=
  destination.flatMap fun c =>
    if Link.isSafe c then [c]
    else if c = '&' then "&amp;".toList
    else if c = apostrophe then "&#x27;".toList
    else (Utf8.encode [c]).flatMap percent

/-- A link target as it is written; dangerous ones are left empty. -/
def shownDestination (destination : Text) : Text :=
  if Link.isDangerous destination then [] else escapeDestination destination

/-- The title attribute, if there is a title. -/
def titleAttribute (title : Text) : Text :=
  if title.isEmpty then [] else " title=\"".toList ++ escapeText title ++ "\"".toList

/-- Stands for raw HTML. -/
def omittedHtml : Text :=
  "<!-- raw HTML omitted -->".toList

namespace Inline

mutual

/-- Inline content without marks, as the value of an attribute. -/
def plainText : Inline → Text
  | text content => escapeText content
  | code content => escapeText content
  | html source => escapeText source
  | softBreak => [' ']
  | lineBreak => [' ']
  | emphasis children => plainTextAll children
  | strong children => plainTextAll children
  | strikethrough children => plainTextAll children
  | link _ _ children => plainTextAll children
  | image _ _ children => plainTextAll children

/-- A sequence of inline content without marks. -/
def plainTextAll : List Inline → Text
  | [] => []
  | piece :: rest => plainText piece ++ plainTextAll rest

end

mutual

/-- Inline content as HTML. -/
def render : Inline → Text
  | text content => escapeText content
  | softBreak => ['\n']
  | lineBreak => "<br />\n".toList
  | code content => "<code>".toList ++ escapeText content ++ "</code>".toList
  | html _ => omittedHtml
  | emphasis children => "<em>".toList ++ renderAll children ++ "</em>".toList
  | strong children => "<strong>".toList ++ renderAll children ++ "</strong>".toList
  | strikethrough children => "<del>".toList ++ renderAll children ++ "</del>".toList
  | link destination title children =>
    "<a href=\"".toList ++ shownDestination destination ++ "\"".toList ++ titleAttribute title ++
      ">".toList ++ renderAll children ++ "</a>".toList
  | image destination title children =>
    "<img src=\"".toList ++ shownDestination destination ++ "\" alt=\"".toList ++
      plainTextAll children ++ "\"".toList ++ titleAttribute title ++ " />".toList

/-- A sequence of inline content as HTML. -/
def renderAll : List Inline → Text
  | [] => []
  | piece :: rest => render piece ++ renderAll rest

end

end Inline

namespace Block

/-- The attribute for the alignment of a cell. -/
def alignAttribute : Table.Alignment → String
  | .unset => ""
  | .left => " align=\"left\""
  | .center => " align=\"center\""
  | .right => " align=\"right\""

/-- A row of a table whose cells are elements of the given name. -/
def renderRow (name : String) (alignments : List Table.Alignment) (cells : List (List Inline)) :
    List Output :=
  let cell (alignment : Table.Alignment) (content : List Inline) : List Output :=
    [.newLine, markup ("<" ++ name ++ alignAttribute alignment ++ ">"),
      .text (Inline.renderAll content), markup ("</" ++ name ++ ">")]
  [.newLine, markup "<tr>"] ++ (List.zipWith cell alignments cells).flatten ++
    [.newLine, markup "</tr>"]

/-- The opening of a block of code: the first word after the fence names its language. -/
def codeOpening (info : Text) : Text :=
  let language := info.takeWhile fun c => !isSpace c
  if info.isEmpty then "<pre><code>".toList
  else
    let style := if info = "math".toList then " data-math-style=\"display\"" else ""
    "<pre><code class=\"language-".toList ++ escapeText language ++ "\"".toList ++ style.toList ++
      ">".toList

/-- The opening of a list; a number other than one is given. -/
def listOpening : Option Nat → String
  | none => "<ul>\n"
  | some 1 => "<ol>\n"
  | some start => "<ol start=\"" ++ toString start ++ "\">\n"

mutual

/-- A block as HTML; the paragraphs of a tight list have no marks of their own. -/
def render (tight : Bool) : Block (List Inline) → List Output
  | paragraph content =>
    if tight then [.text (Inline.renderAll content)]
    else [.newLine, markup "<p>", .text (Inline.renderAll content), markup "</p>\n"]
  | heading level content =>
    [.newLine, markup ("<h" ++ toString level ++ ">"), .text (Inline.renderAll content),
      markup ("</h" ++ toString level ++ ">\n")]
  | code info literal =>
    [.newLine, .text (codeOpening info), .text (escapeText literal), markup "</code></pre>\n"]
  | html _ => [.newLine, .text omittedHtml, .newLine]
  | rule => [.newLine, markup "<hr />\n"]
  | quote children =>
    [.newLine, markup "<blockquote>\n"] ++ renderAll false children ++
      [.newLine, markup "</blockquote>\n"]
  | list start tight items =>
    [.newLine, markup (listOpening start)] ++ renderItems tight items ++
      [markup (if start.isSome then "</ol>\n" else "</ul>\n")]
  | table alignments header rows =>
    let head := [.newLine, markup "<table>\n", .newLine, markup "<thead>\n"] ++
      renderRow "th" alignments header ++ [.newLine, markup "</thead>"]
    let body :=
      if rows.isEmpty then []
      else
        [.newLine, markup "<tbody>\n"] ++ (rows.map (renderRow "td" alignments)).flatten ++
          [.newLine, markup "</tbody>\n"]
    head ++ body ++ [.newLine, markup "</table>\n"]

/-- A sequence of blocks as HTML. -/
def renderAll (tight : Bool) : List (Block (List Inline)) → List Output
  | [] => []
  | block :: rest => render tight block ++ renderAll tight rest

/-- The items of a list as HTML. -/
def renderItems (tight : Bool) : List (List (Block (List Inline))) → List Output
  | [] => []
  | item :: rest =>
    [.newLine, markup "<li>"] ++ renderAll tight item ++ [markup "</li>\n"] ++
      renderItems tight rest

end

end Block

/-- A Markdown document as HTML. -/
def toHtml (source : Text) : Text :=
  let (references, blocks) := readBlocks source
  let understood := blocks.map (Block.mapText (parseInlines references))
  Output.layout (Block.renderAll false understood)

end Marginalia.Markdown
