import Marginalia.Prologue
import Marginalia.Section

/-!
# Segmenting a source

A segmenter joins a comment syntax with a prologue: what the prologue leaves of a source is cut into
lines, and the lines into sections.
-/

namespace Marginalia

/-- How sources of one kind are read. -/
structure Segmenter where
  markers : CommentSyntax
  prologue : Prologue

namespace Segmenter

/-- The segmenter for files with the given extension, with the built-in prologue. -/
def ofExtension (extension : Text) : Segmenter where
  markers := .ofExtension extension
  prologue := .builtin

/-- The segmenter used when nothing is known about a source. -/
def standard : Segmenter where
  markers := .slashes
  prologue := .builtin

/-- The sections of a source, in order. -/
def segment (segmenter : Segmenter) (source : Text) : List Section :=
  segmenter.markers.sections (segmenter.prologue.strip source).lines

end Segmenter

end Marginalia
