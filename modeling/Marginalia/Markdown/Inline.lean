import Marginalia.Markdown.Character

/-!
# Inline content

What a paragraph, a heading or a table cell holds once its marks are understood.
-/

namespace Marginalia.Markdown

/-- A piece of inline content. -/
inductive Inline where
  | text (content : Text)
  | softBreak
  | lineBreak
  | code (content : Text)
  | html (source : Text)
  | emphasis (children : List Inline)
  | strong (children : List Inline)
  | strikethrough (children : List Inline)
  | link (destination title : Text) (children : List Inline)
  | image (destination title : Text) (children : List Inline)

/-- Where a link leads, and its title. -/
structure Target where
  destination : Text
  title : Text
  deriving DecidableEq, Repr

/-- The link targets a document defines, by normalised label.  The first definition of a label
counts. -/
abbrev References := List (Text × Target)

end Marginalia.Markdown
