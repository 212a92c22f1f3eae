import Marginalia.Text.Basic

/-!
# Faults of the file system

The ways in which an operation on files can fail, and how each is reported.
-/

namespace Marginalia

/-- Why an operation on files failed. -/
inductive Fault where
  | notFound
  | exists
  | notDirectory
  | isDirectory
  | nameTooLong
  | tooManyLinks
  | zeroByte
  | other (message : Text)
  deriving DecidableEq, Repr

namespace Fault

/-- A fault as it is reported: what the system calls it, and its number. -/
def message : Fault → Text
  | notFound => "No such file or directory (os error 2)".toList
  | .exists => "File exists (os error 17)".toList
  | notDirectory => "Not a directory (os error 20)".toList
  | isDirectory => "Is a directory (os error 21)".toList
  | nameTooLong => "File name too long (os error 36)".toList
  | tooManyLinks => "Too many levels of symbolic links (os error 40)".toList
  | zeroByte => "file name contained an unexpected NUL byte".toList
  | other message => message

end Fault

end Marginalia
