import Marginalia.Text.Basic

/-!
# Comment syntax

How a language writes comments, as far as documentation needs it: a marker that makes the rest of a
line prose, and optionally the three markers of a multi-line block.  Markers are arbitrary texts,
the empty text included; nothing below assumes that they differ from one another.
-/

namespace Marginalia

/-- The markers of a multi-line comment: its first line, its inner lines and its last line. -/
structure BlockMarkers where
  opener : Text
  body : Text
  closer : Text
  deriving DecidableEq, Repr

/-- How comments are written: possibly as blocks, always as marked lines. -/
structure CommentSyntax where
  block : Option BlockMarkers
  line : Text
  deriving DecidableEq, Repr

namespace CommentSyntax

/-- Starred blocks and double-slash lines. -/
def slashes : CommentSyntax where
  block := some { opener := "/**".toList, body := "*".toList, closer := "*/".toList }
  line := "//".toList

/-- Lines marked with a number sign, no blocks. -/
def hash : CommentSyntax where
  block := none
  line := "#".toList

/-- Lines marked with two hyphens, no blocks. -/
def dashes : CommentSyntax where
  block := none
  line := "--".toList

/-- Extensions of the languages that mark comments with a number sign. -/
def hashExtensions : List Text :=
  ["py", "pyw", "rb", "sh", "bash", "zsh", "pl", "pm", "yml", "yaml", "toml", "r", "mk"].map
    String.toList

/-- Extensions of the languages that mark comments with two hyphens. -/
def dashExtensions : List Text :=
  ["sql", "lua", "hs"].map String.toList

/-- The syntax a file extension calls for.  ASCII case does not matter, and an extension that is in
neither list, the empty one included, gets slashes. -/
def ofExtension (extension : Text) : CommentSyntax :=
  let name := extension.toLowerAscii
  if name ∈ hashExtensions then hash
  else if name ∈ dashExtensions then dashes
  else slashes

end CommentSyntax

end Marginalia
