import Marginalia.Files.FileSystem

/-!
# Workspaces

What a run needs of its surroundings: a working directory, files and a log.  A run is written over
these operations only, so the same run works on a file system in memory, where its effect can be
compared and reasoned about, and on the files of a machine.

What is proved about runs is proved for file systems in memory.  On a machine a write can also fail after its
file was opened (a full disk, a fault of the device), which leaves that file empty or cut short, and a file
can have two names (hard links), so that writing to one of them changes what the other leads to.  Neither
happens in memory.
-/

namespace Marginalia

/-- How much a log entry matters. -/
inductive Level where
  | info
  | debug
  deriving DecidableEq, Repr

/-- An entry of a log. -/
structure LogEntry where
  level : Level
  message : Text
  deriving DecidableEq, Repr

/-- The operations of a workspace. -/
class Workspace (m : Type → Type) where
  workingDirectory : m (Except Fault Path)
  canonicalize : Path → m (Except Fault Path)
  readFile : Path → m (Except Fault Bytes)
  makeDirectories : Path → m (Except Fault Unit)
  writeFile : Path → Bytes → m (Except Fault Unit)
  log : LogEntry → m Unit

/-- A file system in memory, and what has been logged, latest first. -/
structure World where
  files : FileSystem
  logged : List LogEntry := []
  deriving DecidableEq, Repr

/-- The operations on a file system in memory.  One that fails changes no file, except that missing
directories may have been created up to the one that failed; a write does not fail halfway. -/
instance : Workspace (StateM World) where
  workingDirectory := fun world =>
    (match world.files.workingDirectory with
      | some location => .ok location.toPath
      | none => .error .notFound, world)
  canonicalize path := fun world => (world.files.canonicalize path, world)
  readFile path := fun world => (world.files.readFile path, world)
  makeDirectories path := fun world =>
    let (result, files) := world.files.makeDirectories path
    (result, { world with files := files })
  writeFile path content := fun world =>
    match world.files.writeFile path content with
    | .ok files => (.ok (), { world with files := files })
    | .error fault => (.error fault, world)
  log entry := fun world => ((), { world with logged := entry :: world.logged })

end Marginalia
