import Marginalia.Pattern.Parser

/-!
# Prologues

A prologue is what stands at the start of a source for the system and not for the reader, such as an
interpreter line.  It is described by patterns; each is looked for once, in the order given, in what
the one before it has left.

A pattern is held to the start of the text by writing it into an anchored group before it is read.
The anchor binds what is inside that group, so a text that closes the group by itself has parts that
are not anchored; what stands before such a match is dropped with it.
-/

namespace Marginalia

/-- Patterns that are removed from the start of a source, in order. -/
structure Prologue where
  programs : List Program

namespace Prologue

/-- An interpreter line with all line breaks after it. -/
def interpreterLine : Text := "#!.*[\\r\\n]+".toList

/-- An opening tag with the blanks around it. -/
def openingTag : Text := "\\s*<\\?php\\s*".toList

/-- The written form of a pattern held to the start of the text. -/
def anchor (written : Text) : Text :=
  "\\A(?:".toList ++ written ++ ")".toList

/-- Read the patterns of a prologue; the first that is not accepted is the error. -/
def ofPatterns (written : List Text) : Except PatternError Prologue := do
  let patterns ← written.mapM fun text => Pattern.parse (anchor text)
  return ⟨patterns.map Program.compile⟩

/-- The prologue that removes nothing. -/
def none : Prologue := ⟨[]⟩

/-- The patterns used when none are given. -/
def builtinPatterns : List Text := [interpreterLine, openingTag]

/-- The prologue used when none is given. -/
def builtin : Prologue :=
  match ofPatterns builtinPatterns with
  | .ok prologue => prologue
  | .error _ => none

/-- The number of patterns. -/
def size (prologue : Prologue) : Nat := prologue.programs.length

/-- What one pattern leaves of a text. -/
def stripOne (text : Text) (program : Program) : Text :=
  (program.afterMatch? text).getD text

/-- What the prologue leaves of a text. -/
def strip (prologue : Prologue) (text : Text) : Text :=
  prologue.programs.foldl stripOne text

end Prologue

end Marginalia
