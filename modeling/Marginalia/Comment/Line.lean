import Marginalia.Comment.Syntax

/-!
# Lines of a commented source

A line is classified by looking at it and at one bit of context, whether a block comment is open.
Classification is a table of rules tried in order; the last rule always applies, so every line has
exactly one kind.  Beside it stand the functions that take a marker off a comment line.  A stripping
function leaves a line without its marker exactly as it is.
-/

namespace Marginalia

/-- What a line of a source is. -/
inductive LineKind where
  | blockOpen
  | blockBody
  | blockClose
  | lineComment
  | code
  deriving DecidableEq, Repr

/-- Whether a block comment is open when a line starts. -/
inductive Context where
  | outside
  | inBlock
  deriving DecidableEq, Repr

namespace Context

/-- The context after a line of the given kind. -/
def after (context : Context) : LineKind → Context
  | .blockOpen => .inBlock
  | .blockClose => .outside
  | _ => context

end Context

namespace CommentSyntax

/-- The line is nothing but the closing marker, blanks around it aside. -/
def closesBlock (markers : CommentSyntax) (line : Text) : Bool :=
  match markers.block with
  | none => false
  | some block => line.trim == block.closer

/-- The line starts, after its indentation, with the opening marker. -/
def opensBlock (markers : CommentSyntax) (line : Text) : Bool :=
  match markers.block with
  | none => false
  | some block => line.trimStart.startsWith block.opener

/-- The line starts, after its indentation, with the line marker. -/
def marksLine (markers : CommentSyntax) (line : Text) : Bool :=
  line.trimStart.startsWith markers.line

/-- One row of the classification table. -/
structure Rule where
  kind : LineKind
  applies : CommentSyntax → Context → Text → Bool

/-- The classification table; the first row that applies decides. -/
def rules : List Rule :=
  [ { kind := .blockClose
      applies := fun markers context line => context == .inBlock && markers.closesBlock line },
    { kind := .blockBody
      applies := fun markers context _ => context == .inBlock && markers.block.isSome },
    { kind := .blockOpen
      applies := fun markers context line => context == .outside && markers.opensBlock line },
    { kind := .lineComment
      applies := fun markers context line => context == .outside && markers.marksLine line },
    { kind := .code
      applies := fun _ _ _ => true } ]

/-- The kinds of all rows that apply to a line, in table order. -/
def candidates (markers : CommentSyntax) (context : Context) (line : Text) : List LineKind :=
  (rules.filter fun rule => rule.applies markers context line).map Rule.kind

/-- The kind of a line: the first candidate. -/
def classify (markers : CommentSyntax) (context : Context) (line : Text) : LineKind :=
  ((rules.find? fun rule => rule.applies markers context line).map Rule.kind).getD .code

/-- The text without one leading blank character, if it has one. -/
def skipBlank : Text → Text
  | c :: rest => if Text.isBlank c then rest else c :: rest
  | [] => []

/-- The prose of a line that opens a block.  What follows the marker is kept exactly. -/
def stripOpener (markers : CommentSyntax) (line : Text) : Text :=
  match markers.block with
  | none => line
  | some block => (line.trimStart.dropLead? block.opener).getD line

/-- A line without indentation, `marker` and one blank after it; unchanged without the marker. -/
def stripMarker (marker line : Text) : Text :=
  match line.trimStart.dropLead? marker with
  | some rest => skipBlank rest
  | none => line

/-- The prose of an inner line of a block. -/
def stripBody (markers : CommentSyntax) (line : Text) : Text :=
  match markers.block with
  | none => line
  | some block => stripMarker block.body line

/-- The prose of a marked line. -/
def stripLine (markers : CommentSyntax) (line : Text) : Text :=
  stripMarker markers.line line

end CommentSyntax

end Marginalia
