import Marginalia.Comment.Line

/-!
# Sections

A section pairs the prose of one comment with the code that follows it.  Sections are collected line
by line: a *draft* holds the lines of the section being read, and a *segmentation* holds the finished
drafts, the current one, and the little that later lines depend on (whether a block is open, and what
the previous line was).

Drafts keep their lines apart; only the finished section joins them.  The distinction matters because
an empty buffer and a buffer with one empty line read the same once joined.
-/

namespace Marginalia

/-- Prose and the code it describes. -/
structure Section where
  comment : Text
  code : Text
  deriving DecidableEq, Repr

/-- The lines collected for one section. -/
structure Draft where
  comment : List Text := []
  code : List Text := []
  deriving DecidableEq, Repr

namespace Draft

/-- No line has been collected. -/
def isEmpty (draft : Draft) : Bool :=
  draft.comment.isEmpty && draft.code.isEmpty

/-- The draft with one more line of prose. -/
def addComment (draft : Draft) (line : Text) : Draft :=
  { draft with comment := draft.comment ++ [line] }

/-- The draft with one more line of code. -/
def addCode (draft : Draft) (line : Text) : Draft :=
  { draft with code := draft.code ++ [line] }

/-- The section a draft stands for. -/
def toSection (draft : Draft) : Section where
  comment := Text.joinLines draft.comment
  code := Text.joinLines draft.code

end Draft

/-- A source read up to some line. -/
structure Segmentation where
  context : Context := .outside
  previous : Option LineKind := none
  current : Draft := {}
  finished : List Draft := []
  deriving DecidableEq, Repr

namespace Segmentation

/-- Nothing has been read. -/
def start : Segmentation := {}

/-- Begin a new section.  A draft without lines is dropped, so no empty section arises here. -/
def cut (state : Segmentation) : Segmentation :=
  if state.current.isEmpty then state
  else { state with current := {}, finished := state.finished ++ [state.current] }

/-- Take in a line whose kind is known.  Only a block that opens, or the first of several marked
lines, begins a new section; the line that closes a block leaves an empty line of prose. -/
def add (markers : CommentSyntax) (state : Segmentation) (kind : LineKind) (line : Text) :
    Segmentation :=
  match kind with
  | .blockClose =>
    { state with current := state.current.addComment [] }
  | .blockBody =>
    { state with current := state.current.addComment (markers.stripBody line) }
  | .blockOpen =>
    let fresh := state.cut
    { fresh with current := fresh.current.addComment (markers.stripOpener line) }
  | .lineComment =>
    let fresh := if state.previous = some .lineComment then state else state.cut
    { fresh with current := fresh.current.addComment (markers.stripLine line) }
  | .code =>
    { state with current := state.current.addCode line }

/-- Read one line. -/
def step (markers : CommentSyntax) (state : Segmentation) (line : Text) : Segmentation :=
  let kind := markers.classify state.context line
  let next := state.add markers kind line
  { next with context := state.context.after kind, previous := some kind }

/-- All drafts, the current one last even when it has no lines. -/
def drafts (state : Segmentation) : List Draft :=
  state.finished ++ [state.current]

/-- Read lines from the start. -/
def ofLines (markers : CommentSyntax) (lines : List Text) : Segmentation :=
  lines.foldl (step markers) start

end Segmentation

/-- The sections of a list of lines; there is always at least one. -/
def CommentSyntax.sections (markers : CommentSyntax) (lines : List Text) : List Section :=
  (Segmentation.ofLines markers lines).drafts.map Draft.toSection

end Marginalia
