import Marginalia.Text.Utf8

/-!
# Paths

A path is kept as it was spelled, since messages show that spelling and joining paths preserves it.
What a path means is given by its components: repeated separators, a separator at the end and a dot
after the first component do not count, while a dot at the start and every double dot do.

Paths are related to each other without looking at files: one path relative to another, the page of a
file, the link from one page to another.
-/

namespace Marginalia

/-- A path is the bytes it is spelled with. -/
structure Path where
  bytes : Bytes
  deriving DecidableEq, Repr

namespace Path

/-- The separator. -/
def separator : UInt8 := 0x2F

/-- The full stop. -/
def dot : UInt8 := 0x2E

/-- A step of a path. -/
inductive Component where
  | root
  | here
  | up
  | name (bytes : Bytes)
  deriving DecidableEq, Repr

namespace Component

/-- How a component is spelled. -/
def spelling : Component → Bytes
  | root => [separator]
  | here => [dot]
  | up => [dot, dot]
  | name bytes => bytes

/-- Whether a component is a name. -/
def isName : Component → Bool
  | name _ => true
  | _ => false

end Component

/-- The pieces of a byte sequence between separators; there is one more than separators. -/
def pieces : Bytes → List Bytes
  | [] => [[]]
  | byte :: rest =>
    if byte = separator then [] :: pieces rest
    else
      match pieces rest with
      | [] => [[byte]]
      | piece :: others => (byte :: piece) :: others

/-- Pieces with a separator between neighbours. -/
def joinPieces (parts : List Bytes) : Bytes :=
  [separator].intercalate parts

/-- The empty path. -/
def empty : Path := ⟨[]⟩

/-- The path that a text spells. -/
def ofText (text : Text) : Path := ⟨Utf8.encode text⟩

/-- A path as it is shown. -/
def display (path : Path) : Text :=
  Utf8.decodeLossy path.bytes

/-- Whether a path starts at the root. -/
def isAbsolute (path : Path) : Bool :=
  path.bytes.head? == some separator

/-! ## Components -/

/-- The component that a piece after the first spells. -/
def innerComponent? (piece : Bytes) : Option Component :=
  if piece = [] ∨ piece = [dot] then none
  else if piece = [dot, dot] then some .up
  else some (.name piece)

/-- The component that the first piece of a relative path spells. -/
def firstComponent? (piece : Bytes) : Option Component :=
  if piece = [dot] then some .here else innerComponent? piece

/-- The components of a path. -/
def components (path : Path) : List Component :=
  match pieces path.bytes with
  | [] => []
  | first :: rest =>
    (if path.isAbsolute then [.root] else (firstComponent? first).toList) ++
      rest.filterMap innerComponent?

/-- Put a path after another one.  An absolute path replaces what is before it; otherwise a separator
stands between the two, unless there is one or nothing comes before. -/
def join (path next : Path) : Path :=
  if next.isAbsolute then next
  else
    match path.bytes.getLast? with
    | none => next
    | some last =>
      if last = separator then ⟨path.bytes ++ next.bytes⟩
      else ⟨path.bytes ++ separator :: next.bytes⟩

/-- The path that components spell. -/
def ofComponents (parts : List Component) : Path :=
  parts.foldl (fun path part => path.join ⟨part.spelling⟩) empty

/-- The number of bytes at the start of a path that are its root or its leading dot. -/
def leadLength (path : Path) : Nat :=
  match path.bytes with
  | [] => 0
  | first :: rest =>
    if first = separator then 1
    else if first = dot ∧ (rest = [] ∨ rest.head? = some separator) then 1
    else 0

/-- Pieces without those at the end that are no component. -/
def trimPieces (parts : List Bytes) : List Bytes :=
  (parts.reverse.dropWhile fun piece => piece = [] ∨ piece = [dot]).reverse

/-- The path without its last component and without what stands between the two.  The root and the
empty path have none. -/
def parent? (path : Path) : Option Path :=
  let lead := path.bytes.take path.leadLength
  match (trimPieces (pieces (path.bytes.drop path.leadLength))).reverse with
  | [] => if lead = [dot] then some empty else none
  | _ :: before => some ⟨lead ++ joinPieces (trimPieces before.reverse)⟩

/-- The last component, if it is a name. -/
def fileName? (path : Path) : Option Bytes :=
  match path.components.getLast? with
  | some (.name bytes) => some bytes
  | _ => none

/-- The part of a name after its last full stop, if something is before that. -/
def extensionOf (name : Bytes) : Bytes :=
  let after := (name.reverse.takeWhile (· != dot)).reverse
  let before := name.take (name.length - after.length - 1)
  if after.length < name.length ∧ before ≠ [] then after else []

/-- The extension of the file name, as text. -/
def extension (path : Path) : Text :=
  Utf8.decodeLossy ((path.fileName?.map extensionOf).getD [])

/-- The components as text, with a slash between neighbours. -/
def toSlash (path : Path) : Text :=
  ['/'].intercalate (path.components.map fun part => Utf8.decodeLossy part.spelling)

/-- The file name as text, or the whole path if it has none. -/
def displayName (path : Path) : Text :=
  match path.fileName? with
  | some name => Utf8.decodeLossy name
  | none => path.toSlash

/-! ## Paths relative to each other -/

/-- The components that lead from `base` to a path, given the components of both.  Common components at
the start are left out; `moved` says that something has been taken into the result.  No path leads out
of a double dot, and a dot in `base` is passed over together with a component of the path. -/
def difference (moved : Bool) : (path base : List Component) → Option (List Component)
  | path, [] => some path
  | [], _ :: base => (difference true [] base).map (.up :: ·)
  | part :: path, other :: base =>
    if !moved && part == other then difference false path base
    else
      match other with
      | .here => (difference true path base).map (part :: ·)
      | .up => none
      | _ => some (.up :: base.map (fun _ => .up) ++ part :: path)

/-- The path that leads from `base` to a path.  An absolute path leads to itself from a relative one. -/
def relativeTo? (path base : Path) : Option Path :=
  if path.isAbsolute = base.isAbsolute then
    (difference false path.components base.components).map ofComponents
  else if path.isAbsolute then some path
  else none

/-- The names in a path. -/
def names (path : Path) : List Bytes :=
  path.components.filterMap fun part =>
    match part with
    | .name bytes => some bytes
    | _ => none

/-- The ending of pages. -/
def pageSuffix : Bytes :=
  Utf8.encode ".html".toList

/-- Names with the ending of pages on the last one. -/
def pageNames : List Bytes → List Bytes
  | [] => [pageSuffix]
  | [last] => [last ++ pageSuffix]
  | first :: rest => first :: pageNames rest

/-- The path of the page of a file, relative to the directory of all pages.  Only names count, so the
page of a file outside the base directory is still below the directory of pages. -/
def page (path : Path) : Path :=
  ⟨joinPieces (pageNames path.names)⟩

/-- The link from one page to another. -/
def linkTo (source target : Path) : Text :=
  let directory := source.parent?.getD empty
  ((target.relativeTo? directory).getD target).toSlash

end Path

end Marginalia
