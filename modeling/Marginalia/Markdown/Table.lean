import Marginalia.Markdown.Character

/-!
# Rows of tables

A table row is a line of cells with bars between them.  Its first row is found only when the line
below it, a row of dashes, has been read; what is looked at then is a whole paragraph, whose last line
is the row and whose earlier lines stay a paragraph.
-/

namespace Marginalia.Markdown.Table

/-- The horizontal alignment of a column. -/
inductive Alignment where
  | unset
  | left
  | center
  | right
  deriving DecidableEq, Repr

/-- The blanks of a row. -/
def isRowBlank (c : Char) : Bool :=
  c == ' ' || c == '\t' || c.toNat == 0x0B || c.toNat == 0x0C

/-- The cell at the start of a text, up to the end of its line or a bar that no backslash precedes;
and what follows it. -/
def takeCell (escaped : Bool) : Text → Text × Text
  | [] => ([], [])
  | c :: rest =>
    if isLineEnd c || (c == '|' && !escaped) then ([], c :: rest)
    else
      let (cell, after) := takeCell (c == '\\') rest
      (c :: cell, after)

/-- What follows a bar and the blanks after it. -/
def afterBar? : Text → Option Text
  | '|' :: rest => some (rest.dropWhile isRowBlank)
  | _ => none

/-- The text after a bar at its start, if there is one. -/
def skipBar (text : Text) : Text :=
  (afterBar? text).getD text

/-- What follows the end of a line, blanks before it included. -/
def afterLine? (text : Text) : Option Text :=
  match text.dropWhile isRowBlank with
  | '\n' :: rest => some rest
  | _ => none

/-- Bars without the backslashes before them. -/
def unescapeBars : Text → Text
  | '\\' :: '|' :: rest => '|' :: unescapeBars rest
  | c :: rest => c :: unescapeBars rest
  | [] => []

/-- The text of a cell. -/
def cellText (written : Text) : Text :=
  trimBoth (unescapeBars written)

/-- The cells of a row, and the lines before it. -/
structure Row where
  lead : Text
  cells : List Text
  deriving DecidableEq, Repr

/-- A row needs a cell. -/
def Row.make? (lead : Text) (cells : List Text) : Option Row :=
  if cells.isEmpty then none else some ⟨lead, cells.reverse⟩

/-- Read cells from `rest`, the end of `whole`; `lead` is what comes before the row and `cells` are its
cells so far, latest first.  Each step takes a bar or the end of a line. -/
def readCells (whole : Text) : Nat → (lead : Text) → (cells : List Text) → Text → Option Row
  | 0, _, _, _ => none
  | fuel + 1, lead, cells, rest =>
    let (cell, after) := takeCell false rest
    match afterBar? after with
    | some after => readCells whole fuel lead (cellText cell :: cells) after
    | none =>
      let cells := if cell.isEmpty then cells else cellText cell :: cells
      match afterLine? after with
      | some [] => Row.make? lead cells
      | some after =>
        readCells whole fuel (whole.take (whole.length - after.length)) [] (skipBar after)
      | none => if after.isEmpty then Row.make? lead cells else none

/-- The last line of a text as a row. -/
def row? (text : Text) : Option Row :=
  readCells text (text.length + 1) [] [] (skipBar text)

/-- What follows one cell of dashes, blanks around it included. -/
def afterDashes? (text : Text) : Option Text :=
  let skipColon : Text → Text
    | ':' :: rest => rest
    | rest => rest
  match skipColon (text.dropWhile isRowBlank) with
  | '-' :: rest => some ((skipColon (rest.dropWhile (· == '-'))).dropWhile isRowBlank)
  | _ => none

/-- Whether cells of dashes fill the rest of a line. -/
def dashesToEnd : Nat → Text → Bool
  | 0, _ => false
  | fuel + 1, text =>
    match afterDashes? text with
    | none => false
    | some ('|' :: rest) => (afterLine? rest).isSome || dashesToEnd fuel rest
    | some rest => (afterLine? rest).isSome

/-- Whether a line is a row of dashes. -/
def isDelimiter (line : Text) : Bool :=
  let cells := match line with
    | '|' :: rest => rest
    | _ => line
  dashesToEnd (cells.length + 1) cells

/-- The alignment that colons at the ends of a cell of dashes ask for. -/
def alignment (cell : Text) : Alignment :=
  match cell.head? == some ':', cell.getLast? == some ':' with
  | true, true => .center
  | true, false => .left
  | false, true => .right
  | false, false => .unset

/-- As many cells as there are columns: further ones are dropped, missing ones are empty. -/
def fit (columns : Nat) (cells : List Text) : List Text :=
  cells.take columns ++ List.replicate (columns - cells.length) []

/-- What makes the lines of a paragraph the start of a table: the paragraph before it, its alignments
and its first row. -/
structure Start where
  lead : Option Text
  alignments : List Alignment
  header : List Text

/-- The start of a table, if the last line of `content` and the row of dashes `line` have equally many
cells. -/
def start? (content line : Text) : Option Start := do
  let dashes ← row? line
  let header ← row? content
  if dashes.cells.length = header.cells.length then
    let lead := if header.lead.isEmpty then none else some (cellText header.lead)
    some ⟨lead, dashes.cells.map alignment, header.cells⟩
  else none

end Marginalia.Markdown.Table
