import Marginalia.Text.Basic

/-!
# Text inside HTML

The characters that HTML reserves in text and in attribute values are written as references.  An
escaped text therefore cannot begin or end an element or an attribute value, wherever it is placed.
-/

namespace Marginalia.Html

/-- A character as it is written inside HTML. -/
def escapeChar (c : Char) : Text :=
  match c.toNat with
  | 0x26 => "&amp;".toList
  | 0x3C => "&lt;".toList
  | 0x3E => "&gt;".toList
  | 0x22 => "&quot;".toList
  | 0x27 => "&#39;".toList
  | _ => [c]

/-- A text as it is written inside HTML. -/
def escape (text : Text) : Text :=
  text.flatMap escapeChar

end Marginalia.Html
