import Marginalia.Files.Fault
import Marginalia.Path

/-!
# File systems

A file system is a finite map from locations to files, directories and symbolic links, together with a
working directory.  A location is the list of names from the root; unlike a path it has no dots and no
links in it, so that two locations are the same place only if they are equal.

A path is resolved by walking its steps.  Following a link continues the walk with the steps of the
link's target; a walk follows a limited number of links, which is what makes it end.

An operation fails for reasons that can be read off the map, the working directory and the limits on names,
paths and links.  Other reasons are outside the model.  In particular a write takes effect as a whole: there
is none that fails after its file was opened, as on a full disk or with a fault of the device, and that
leaves the file empty or cut short.  A file has one location, so there are no two names of one file (hard
links) either, and nobody is refused access.
-/

namespace Marginalia

/-- A place in a file system: the names that lead to it from the root. -/
abbrev Location := List Bytes

/-- What can be at a place. -/
inductive Entry where
  | file (content : Bytes)
  | directory
  | link (target : Path)
  deriving DecidableEq, Repr

/-- A file system, and the directory from which relative paths start.  There is none once it has been
removed. -/
structure FileSystem where
  entries : List (Location × Entry)
  workingDirectory : Option Location
  deriving DecidableEq, Repr

/-- A step of a walk. -/
inductive Step where
  | stay
  | up
  | name (bytes : Bytes)
  deriving DecidableEq, Repr

namespace Step

/-- The step that a piece of a path asks for. -/
def ofPiece (piece : Bytes) : Step :=
  if piece = [] ∨ piece = [Path.dot] then stay
  else if piece = [Path.dot, Path.dot] then up
  else name piece

end Step

/-- The steps of a path. -/
def Path.steps (path : Path) : List Step :=
  (Path.pieces path.bytes).map Step.ofPiece

/-- The path of a location. -/
def Location.toPath (location : Location) : Path :=
  ⟨Path.separator :: Path.joinPieces location⟩

/-- Where a walk ends: at something, or at a place in a directory where nothing is yet. -/
inductive Place where
  | occupied (location : Location)
  | vacant (location : Location)
  deriving DecidableEq, Repr

namespace FileSystem

/-- The longest name, in bytes. -/
def longestName : Nat := 255

/-- The longest path, in bytes. -/
def longestPath : Nat := 4095

/-- The most links that a walk follows. -/
def mostLinks : Nat := 40

/-- What is at a place; the root is a directory. -/
def get? (files : FileSystem) : Location → Option Entry
  | [] => some .directory
  | location => files.entries.lookup location

/-- Put something at a place. -/
def set (files : FileSystem) (location : Location) (entry : Entry) : FileSystem :=
  { files with
    entries := (location, entry) :: files.entries.filter fun other => other.1 != location }

/-- Remove what is at a place, with all that is below it. -/
def erase (files : FileSystem) (location : Location) : FileSystem where
  entries := files.entries.filter fun other => !location.isPrefixOf other.1
  workingDirectory := files.workingDirectory.filter fun other => !location.isPrefixOf other

/-! ## Resolving paths -/

/-- Walk from a place.  A link is followed by `resume`, except a last one unless `follow` is set. -/
def walkWith (files : FileSystem) (follow : Bool)
    (resume : Location → List Step → Except Fault Place) :
    Location → List Step → Except Fault Place
  | place, [] => .ok (.occupied place)
  | place, step :: rest =>
    match files.get? place with
    | some .directory =>
      match step with
      | .stay => walkWith files follow resume place rest
      | .up => walkWith files follow resume place.dropLast rest
      | .name bytes =>
        if longestName < bytes.length then .error .nameTooLong
        else
          let next := place ++ [bytes]
          match files.get? next with
          | some (.link target) =>
            if rest.isEmpty && !follow then .ok (.occupied next)
            else resume (if target.isAbsolute then [] else place) (target.steps ++ rest)
          | some _ => walkWith files follow resume next rest
          | none => if rest.isEmpty then .ok (.vacant next) else .error .notFound
    | some _ => .error .notDirectory
    | none => .error .notFound

/-- Walk from a place, following at most `links` links. -/
def walk (files : FileSystem) (follow : Bool) : (links : Nat) → Location → List Step →
    Except Fault Place
  | 0 => files.walkWith follow fun _ _ => .error .tooManyLinks
  | links + 1 => files.walkWith follow (files.walk follow links)

/-- Resolve a path. -/
def resolve (files : FileSystem) (follow : Bool) (path : Path) : Except Fault Place :=
  if path.bytes.contains 0 then .error .zeroByte
  else if path.bytes.isEmpty then .error .notFound
  else if longestPath < path.bytes.length then .error .nameTooLong
  else if path.isAbsolute then files.walk follow mostLinks [] path.steps
  else
    match files.workingDirectory with
    | some place => files.walk follow mostLinks place path.steps
    | none => .error .notFound

/-- The location of what a path leads to. -/
def locate (files : FileSystem) (path : Path) : Except Fault Location :=
  match files.resolve true path with
  | .ok (.occupied location) => .ok location
  | .ok (.vacant _) => .error .notFound
  | .error fault => .error fault

/-- The absolute path, without dots and links, of what a path leads to. -/
def canonicalize (files : FileSystem) (path : Path) : Except Fault Path :=
  (files.locate path).map Location.toPath

/-- Whether a path leads to a directory. -/
def isDirectory (files : FileSystem) (path : Path) : Bool :=
  match files.locate path with
  | .ok location => files.get? location == some .directory
  | .error _ => false

/-- The content of the file that a path leads to. -/
def readFile (files : FileSystem) (path : Path) : Except Fault Bytes :=
  match files.locate path with
  | .ok location =>
    match files.get? location with
    | some (.file content) => .ok content
    | _ => .error .isDirectory
  | .error fault => .error fault

/-! ## Changing files -/

/-- A path without separators at its end, of which one stays if there is nothing else. -/
def withoutTrailing (path : Path) : Path :=
  let kept := (path.bytes.reverse.dropWhile (· == Path.separator)).reverse
  if kept.isEmpty then ⟨path.bytes.take 1⟩ else ⟨kept⟩

/-- Write a file, which is created if the path leads to a vacant place.  A path with a separator at
its end can only name a directory. -/
def writeFile (files : FileSystem) (path : Path) (content : Bytes) : Except Fault FileSystem :=
  if path.bytes.getLast? = some Path.separator then
    match files.resolve false (withoutTrailing path) with
    | .ok _ => .error .isDirectory
    | .error fault => .error fault
  else
    match files.resolve true path with
    | .ok (.vacant location) => .ok (files.set location (.file content))
    | .ok (.occupied location) =>
      match files.get? location with
      | some (.file _) => .ok (files.set location (.file content))
      | _ => .error .isDirectory
    | .error fault => .error fault

/-- Create a directory at a vacant place. -/
def makeDirectory (files : FileSystem) (path : Path) : Except Fault FileSystem :=
  match files.resolve false (withoutTrailing path) with
  | .ok (.vacant location) => .ok (files.set location .directory)
  | .ok (.occupied _) => .error .exists
  | .error fault => .error fault

/-- Create a directory and those above it that are missing.  Directories that were created stay, also
when a later one cannot be created. -/
def makeDirectoriesWithin : Nat → FileSystem → Path → Except Fault Unit × FileSystem
  | 0, files, _ => (.error .notFound, files)
  | depth + 1, files, path =>
    let settle (files : FileSystem) (fault : Fault) : Except Fault Unit × FileSystem :=
      (if files.isDirectory path then .ok () else .error fault, files)
    if path.components.isEmpty then (.ok (), files)
    else
      match files.makeDirectory path with
      | .ok files => (.ok (), files)
      | .error .notFound =>
        match path.parent? with
        | none => (.error (.other "failed to create whole tree".toList), files)
        | some parent =>
          match makeDirectoriesWithin depth files parent with
          | (.error fault, files) => (.error fault, files)
          | (.ok (), files) =>
            match files.makeDirectory path with
            | .ok files => (.ok (), files)
            | .error fault => settle files fault
      | .error fault => settle files fault

/-- Create a directory and those above it that are missing; a path has fewer components than bytes
above its first. -/
def makeDirectories (files : FileSystem) (path : Path) : Except Fault Unit × FileSystem :=
  makeDirectoriesWithin (path.bytes.length + 1) files path

end FileSystem

end Marginalia
