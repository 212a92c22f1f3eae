import Marginalia.Files.Fault
import Marginalia.Path
import Marginalia.Pattern.Parser

/-!
# Failures of a run

A run ends at its first failure.  Each failure names what was being done, with the paths as they were
given.
-/

namespace Marginalia

/-- Why a run failed. -/
inductive Failure where
  | noInputs
  | noWorkingDirectory (fault : Fault)
  | cannotRead (path : Path) (fault : Fault)
  | cannotCreateDirectory (path : Path) (fault : Fault)
  | cannotWrite (path : Path) (fault : Fault)
  | badPattern (cause : PatternError)
  /-- Two files would have the same page. -/
  | collision (first second page : Path)
  /-- A path that is not text cannot be listed. -/
  | unlistablePath
  deriving DecidableEq, Repr

namespace Failure

/-- A path in quotation marks. -/
def quotedPath (path : Path) : Text :=
  "'".toList ++ path.display ++ "'".toList

/-- A failure as it is reported.  What is wrong with a pattern is left to the pattern's own report. -/
def message : Failure → Text
  | noInputs => "No input files given".toList
  | noWorkingDirectory fault => "Cannot determine working directory: ".toList ++ fault.message
  | cannotRead path fault =>
    "Failed to read file ".toList ++ quotedPath path ++ ": ".toList ++ fault.message
  | cannotCreateDirectory path fault =>
    "Failed to create directory ".toList ++ quotedPath path ++ ": ".toList ++ fault.message
  | cannotWrite path fault =>
    "Failed to write file ".toList ++ quotedPath path ++ ": ".toList ++ fault.message
  | badPattern _ => "Invalid prologue pattern: ".toList
  | collision first second page =>
    quotedPath first ++ " and ".toList ++ quotedPath second ++
      " would both be documented at ".toList ++ quotedPath page
  | unlistablePath => "JSON error: path contains invalid UTF-8 characters".toList

end Failure

end Marginalia
