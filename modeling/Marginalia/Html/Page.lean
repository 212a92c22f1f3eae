import Marginalia.Html.Row

/-!
# Pages

A page shows the sections of one file in a table, with links to the other pages of the same run.  Its
styles and scripts are linked and not contained, so the page itself is fixed text around the file's
name, its rows and its links.  A page is written line by line; a row's cell may itself have several.
-/

namespace Marginalia.Html

/-- The address of the stylesheet that a page links when no other is chosen. -/
def defaultStylesheet : Text :=
  "http://markhuot.github.com/phocco/resources/phocco.css".toList

/-- The addresses of the stylesheets for code. -/
def themeStylesheets : List String :=
  ["http://google-code-prettify.googlecode.com/svn/trunk/src/prettify.css",
   "http://alexgorbatchev.com/pub/sh/current/styles/shThemeDefault.css"]

/-- The addresses of the scripts that convert prose. -/
def proseScripts : List String :=
  ["http://code.jquery.com/jquery-1.7.1.min.js",
   "http://markhuot.github.com/phocco/resources/showdown.js"]

/-- The addresses of the scripts that colour code, in the order in which they are loaded. -/
def highlighterScripts : List String :=
  ["https://raw.github.com/alexgorbatchev/SyntaxHighlighter/master/scripts/XRegExp.js",
   "https://raw.github.com/alexgorbatchev/SyntaxHighlighter/master/scripts/shCore.js",
   "http://alexgorbatchev.com/pub/sh/current/scripts/shAutoloader.js"]

/-- Where the scripts of the brushes are. -/
def brushBase : String :=
  "http://alexgorbatchev.com/pub/sh/current/scripts/"

/-- The names of each brush, and its script. -/
def brushes : List (String × String) :=
  [("applescript", "shBrushAppleScript.js"),
   ("actionscript3 as3", "shBrushAS3.js"),
   ("bash shell", "shBrushBash.js"),
   ("coldfusion cf", "shBrushColdFusion.js"),
   ("cpp c", "shBrushCpp.js"),
   ("c# c-sharp csharp", "shBrushCSharp.js"),
   ("css", "shBrushCss.js"),
   ("delphi pascal", "shBrushDelphi.js"),
   ("diff patch pas", "shBrushDiff.js"),
   ("erl erlang", "shBrushErlang.js"),
   ("groovy", "shBrushGroovy.js"),
   ("java", "shBrushJava.js"),
   ("jfx javafx", "shBrushJavaFX.js"),
   ("js jscript javascript", "shBrushJScript.js"),
   ("perl pl", "shBrushPerl.js"),
   ("php", "shBrushPhp.js"),
   ("text plain", "shBrushPlain.js"),
   ("py python", "shBrushPython.js"),
   ("ruby rails ror rb", "shBrushRuby.js"),
   ("sass scss", "shBrushSass.js"),
   ("scala", "shBrushScala.js"),
   ("sql", "shBrushSql.js"),
   ("vb vbnet", "shBrushVb.js"),
   ("xml xhtml xslt html", "shBrushXml.js")]

/-- A link to a page. -/
structure PageLink where
  label : Text
  href : Text
  deriving DecidableEq, Repr

/-- What a page shows. -/
structure Page where
  name : Text
  stylesheet : Text := defaultStylesheet
  navigation : List PageLink := []
  rows : List Row
  deriving DecidableEq, Repr

/-- The name by which a section can be linked. -/
def anchor (index : Nat) : Text :=
  "section-".toList ++ Nat.toDigits 10 index

namespace Page

/-- A line of fixed text. -/
def fixed (line : String) : List Text :=
  [line.toList]

/-- The part of a page before its body. -/
def head (page : Page) : List Text :=
  (["<!DOCTYPE html>", "<html>", "<head>",
    "<meta http-equiv=\"content-type\" content=\"text/html;charset=utf-8\">"].map String.toList) ++
  ["<title>".toList ++ escape page.name ++ "</title>".toList,
   "<link rel=\"stylesheet\" href=\"".toList ++ escape page.stylesheet ++ "\">".toList] ++
  themeStylesheets.map (fun address =>
    "<link rel=\"stylesheet\" type=\"text/css\" href=\"".toList ++ address.toList ++ "\">".toList) ++
  (["<style type=\"text/css\">",
    ".syntaxhighlighter, .syntaxhighlighter .line.alt1, .syntaxhighlighter .line.alt2 \x7b background: none !important; \x7d",
    "td.code td.code \x7b padding: 0; border: none; \x7d",
    "</style>", "</head>"].map String.toList)

/-- A link of the navigation. -/
def navigationLink (link : PageLink) : Text :=
  "<a class=\"source\" href=\"".toList ++ escape link.href ++ "\">".toList ++ escape link.label ++
    "</a>".toList

/-- The navigation, which a page has if there is another page to go to. -/
def navigationLines (links : List PageLink) : List Text :=
  if links.length < 2 then []
  else
    (["<div id=\"jump_to\">",
      "<a id=\"jump_handle\" href=\"#\">Jump&nbsp;To&hellip;</a>",
      "<div id=\"jump_wrapper\">", "<div id=\"jump_page\">"].map String.toList) ++
    links.map navigationLink ++
    (["</div>", "</div>", "</div>"].map String.toList)

/-- The lines of the row at an index. -/
def rowLines (index : Nat) (row : Row) : List Text :=
  ["<tr id=\"".toList ++ anchor index ++ "\">".toList,
   "<td class=\"docs\">".toList,
   "<div class=\"pilwrap\">".toList,
   "<a class=\"pilcrow\" href=\"#".toList ++ anchor index ++ "\">&#182;</a>".toList,
   "</div>".toList,
   row.prose,
   "</td>".toList,
   "<td class=\"code\">".toList,
   "<div class=\"highlight\">".toList,
   row.code,
   "</div>".toList,
   "</td>".toList,
   "</tr>".toList]

/-- The lines of the rows from an index on. -/
def rowsFrom : Nat → List Row → List Text
  | _, [] => []
  | index, row :: rest => rowLines index row ++ rowsFrom (index + 1) rest

/-- The table of the sections. -/
def tableLines (page : Page) : List Text :=
  (["<table cellspacing=\"0\" cellpadding=\"0\">", "<thead>", "<tr>"].map String.toList) ++
  ["<th class=\"docs\"><h1>".toList ++ escape page.name ++ "</h1></th>".toList] ++
  (["<th class=\"code\"></th>", "</tr>", "</thead>", "<tbody>"].map String.toList) ++
  rowsFrom 0 page.rows ++
  (["</tbody>", "</table>"].map String.toList)

/-- The lines that name the brushes, with commas between them. -/
def brushLines : List (String × String) → List String
  | [] => []
  | [(names, script)] => ["  \"" ++ names ++ " " ++ brushBase ++ script ++ "\""]
  | (names, script) :: rest =>
    ("  \"" ++ names ++ " " ++ brushBase ++ script ++ "\",") :: brushLines rest

/-- The scripts, which are the same on every page. -/
def scriptLines : List String :=
  proseScripts.map (fun address => "<script src=\"" ++ address ++ "\"></script>") ++
  ["<script>",
   "var converter = new Showdown.converter();",
   "$(\".doc\").not(\".rendered\").each(function() \x7b",
   "  $(this).html(converter.makeHtml($(this).text()));",
   "\x7d);",
   "$(\"#jump_handle\").click(function(e) \x7b",
   "  $(\"#jump_wrapper\").toggle();",
   "  e.preventDefault();",
   "\x7d);",
   "</script>"] ++
  highlighterScripts.map (fun address =>
    "<script type=\"text/javascript\" src=\"" ++ address ++ "\"></script>") ++
  ["<script type=\"text/javascript\">",
   "SyntaxHighlighter.autoloader("] ++
  brushLines brushes ++
  [");",
   "SyntaxHighlighter.defaults[\"light\"] = true;",
   "SyntaxHighlighter.defaults[\"unindent\"] = false;",
   "SyntaxHighlighter.all();",
   "</script>"]

/-- The lines of a page. -/
def lines (page : Page) : List Text :=
  page.head ++
  (["<body>", "<div id=\"container\">", "<div id=\"background\"></div>"].map String.toList) ++
  navigationLines page.navigation ++
  page.tableLines ++
  fixed "</div>" ++
  scriptLines.map String.toList ++
  (["</body>", "</html>"].map String.toList)

/-- A page as HTML: its lines, each ended by a line feed. -/
def html (page : Page) : Text :=
  page.lines.flatMap fun line => line ++ ['\n']

end Page

end Marginalia.Html
