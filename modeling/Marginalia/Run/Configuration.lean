import Marginalia.Html.Page
import Marginalia.Path
import Marginalia.Prologue

/-!
# Configurations

What a run is asked to do.
-/

namespace Marginalia

/-- Which lines at the start of a file are left out. -/
inductive PrologueChoice where
  | builtin
  | none
  | custom (patterns : List Text)
  deriving DecidableEq, Repr

namespace PrologueChoice

/-- The prologue that is chosen; a pattern may turn out to be malformed. -/
def prologue : PrologueChoice → Except PatternError Prologue
  | builtin => .ok .builtin
  | none => .ok .none
  | custom patterns => Prologue.ofPatterns patterns

end PrologueChoice

/-- What a run is asked to do.  Inputs and the output directory are relative to the base directory,
which is the working directory unless another one is given. -/
structure Configuration where
  inputs : List Path := []
  output : Path := .ofText "docs".toList
  base : Option Path := none
  prologue : PrologueChoice := .builtin
  prose : Html.ProseMode := .client
  stylesheet : Option Text := none
  dryRun : Bool := false
  deriving DecidableEq, Repr

namespace Configuration

/-- The stylesheet that pages link. -/
def linkedStylesheet (configuration : Configuration) : Text :=
  configuration.stylesheet.getD Html.defaultStylesheet

end Configuration

end Marginalia
