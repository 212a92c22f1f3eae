import Marginalia.Markdown.Table

/-!
# Blocks

The structure of a document: paragraphs, headings, code, quotations, lists and tables.  The type is
over what its texts hold, so the same tree describes a document before its inline marks are understood
and after.
-/

namespace Marginalia.Markdown

/-- A block whose texts are of type `α`. -/
inductive Block (α : Type) where
  | paragraph (content : α)
  | heading (level : Nat) (content : α)
  | code (info literal : Text)
  | html (source : Text)
  | rule
  | quote (children : List (Block α))
  /-- A list is numbered from `start`, or has bullets; the paragraphs of a tight list are not set
  apart. -/
  | list (start : Option Nat) (tight : Bool) (items : List (List (Block α)))
  | table (alignments : List Table.Alignment) (header : List α) (rows : List (List α))

namespace Block

variable {α β : Type}

mutual

/-- Change the texts of a block. -/
def mapText (f : α → β) : Block α → Block β
  | paragraph content => paragraph (f content)
  | heading level content => heading level (f content)
  | code info literal => code info literal
  | html source => html source
  | rule => rule
  | quote children => quote (mapTextAll f children)
  | list start tight items => list start tight (mapTextItems f items)
  | table alignments header rows => table alignments (header.map f) (rows.map (·.map f))

/-- Change the texts of a sequence of blocks. -/
def mapTextAll (f : α → β) : List (Block α) → List (Block β)
  | [] => []
  | block :: rest => mapText f block :: mapTextAll f rest

/-- Change the texts of the items of a list. -/
def mapTextItems (f : α → β) : List (List (Block α)) → List (List (Block β))
  | [] => []
  | item :: rest => mapTextAll f item :: mapTextItems f rest

end

end Block

end Marginalia.Markdown
