import Marginalia.Markdown.Character

/-!
# Places in a line

Blocks are recognised by columns, and a tab reaches to the next multiple of four.  A place in a line
therefore has a column besides the text that follows it, and it can lie in the middle of a tab: the
part of the tab that is left then counts as spaces.
-/

namespace Marginalia.Markdown

/-- The distance of tab stops. -/
def tabStop : Nat := 4

/-- The columns from `column` to the next tab stop. -/
def toTabStop (column : Nat) : Nat :=
  tabStop - column % tabStop

/-- The blank columns at the start of a text that begins at `column`, and the text after them. -/
def margin (column : Nat) : Text → Nat × Text
  | ' ' :: rest =>
    let (width, after) := margin (column + 1) rest
    (width + 1, after)
  | '\t' :: rest =>
    let (width, after) := margin (column + toTabStop column) rest
    (width + toTabStop column, after)
  | rest => (0, rest)

/-- A place in a line: what follows it, its column, and whether it lies inside the tab that follows. -/
structure Cursor where
  rest : Text
  column : Nat := 0
  insideTab : Bool := false

namespace Cursor

/-- The width of the blanks that follow. -/
def indent (cursor : Cursor) : Nat :=
  (margin cursor.column cursor.rest).1

/-- What follows the blanks. -/
def tail (cursor : Cursor) : Text :=
  (margin cursor.column cursor.rest).2

/-- Whether only blanks are left of the line. -/
def isBlank (cursor : Cursor) : Bool :=
  cursor.tail.head? == some '\n'

/-- Whether the line is indented as far as code. -/
def isIndented (cursor : Cursor) : Bool :=
  tabStop ≤ cursor.indent

/-- Move past a number of characters. -/
def advance : Nat → Cursor → Cursor
  | 0, cursor => cursor
  | count + 1, cursor =>
    match cursor.rest with
    | [] => cursor
    | c :: rest =>
      let width := if c = '\t' then toTabStop cursor.column else 1
      advance count { rest := rest, column := cursor.column + width }

/-- Move by one column. -/
def advanceColumn (cursor : Cursor) : Cursor :=
  match cursor.rest with
  | '\t' :: rest =>
    if 1 < toTabStop cursor.column then
      { rest := '\t' :: rest, column := cursor.column + 1, insideTab := true }
    else { rest := rest, column := cursor.column + 1 }
  | _ :: rest => { rest := rest, column := cursor.column + 1 }
  | [] => cursor

/-- Move by a number of columns. -/
def advanceColumns : Nat → Cursor → Cursor
  | 0, cursor => cursor
  | count + 1, cursor => advanceColumns count cursor.advanceColumn

/-- Move past the blanks and the given number of characters after them. -/
def advancePastBlanks (cursor : Cursor) (count : Nat) : Cursor :=
  cursor.advance (cursor.rest.length - cursor.tail.length + count)

/-- Move past one blank, if there is one. -/
def skipBlank (cursor : Cursor) : Cursor :=
  if cursor.rest.head?.any isSpaceOrTab then cursor.advanceColumn else cursor

/-- Move past at most `count` blanks. -/
def skipBlanks : Nat → Cursor → Cursor
  | 0, cursor => cursor
  | count + 1, cursor => skipBlanks count cursor.skipBlank

/-- Move to the end of the line. -/
def toEnd (cursor : Cursor) : Cursor :=
  { rest := ['\n'], column := cursor.column }

/-- What is left of the line; the rest of a tab is given as spaces. -/
def remainder (cursor : Cursor) : Text :=
  if cursor.insideTab then List.replicate (toTabStop cursor.column) ' ' ++ cursor.rest.drop 1
  else cursor.rest

end Cursor

end Marginalia.Markdown
