import Marginalia.Files.Workspace
import Marginalia.Run.Configuration
import Marginalia.Run.Failure
import Marginalia.Segmenter

/-!
# Documents

A document is an input file together with its path relative to the base directory and the path of its
page.  Two spellings of the same file are one document; two files with the same page cannot both be
documented.
-/

namespace Marginalia

/-- An input file, and where its page goes. -/
structure Document where
  /-- The path from which the file is read. -/
  source : Path
  /-- The path relative to the base directory. -/
  relative : Path
  /-- The path of the page, relative to the directory of pages. -/
  page : Path
  deriving DecidableEq, Repr

namespace Document

/-- The document of a file that is read from `source`. -/
def make (source relative : Path) : Document :=
  { source := source, relative := relative, page := relative.page }

/-- The extension of the file. -/
def extension (document : Document) : Text :=
  document.relative.extension

/-- The name by which pages link to the document. -/
def label (document : Document) : Text :=
  document.relative.toSlash

/-- The links from the page of one document to those of all. -/
def navigation (current : Document) (documents : List Document) : List Html.PageLink :=
  documents.map fun document =>
    { label := document.label, href := current.page.linkTo document.page }

/-- The sections of a document whose file holds the given bytes. -/
def sections (document : Document) (prologue : Prologue) (content : Bytes) : List Section :=
  let segmenter : Segmenter :=
    { markers := .ofExtension document.extension, prologue := prologue }
  segmenter.segment (Utf8.decodeLossy content)

/-- The page of a document with the given sections, among all documents of a run. -/
def toPage (document : Document) (configuration : Configuration) (documents : List Document)
    (parts : List Section) : Html.Page where
  name := document.relative.displayName
  stylesheet := configuration.linkedStylesheet
  navigation := document.navigation documents
  rows := parts.map (Html.Row.ofSection configuration.prose document.extension)

end Document

/-! ## Finding the documents of a run -/

variable {m : Type → Type} [Monad m] [Workspace m]

/-- An operation of a workspace, with its fault made a failure. -/
def attempt {α : Type} (failure : Fault → Failure) (operation : m (Except Fault α)) :
    ExceptT Failure m α :=
  ExceptT.mk do
    match ← operation with
    | .ok value => pure (.ok value)
    | .error fault => pure (.error (failure fault))

/-- Log an entry. -/
def report (level : Level) (message : Text) : ExceptT Failure m Unit :=
  ExceptT.lift (Workspace.log ⟨level, message⟩)

/-- The path of an input relative to the base directory.  Both are resolved first, so that all
spellings of a file give the same path. -/
def normalizeInput (base input : Path) : ExceptT Failure m Path := do
  let target ← attempt (.cannotRead input) (Workspace.canonicalize (base.join input))
  let directory ← attempt (.cannotRead base) (Workspace.canonicalize base)
  pure ((target.relativeTo? directory).getD target)

/-- Add the documents of further inputs to those found so far.  An input that has been found before is
passed over. -/
def collectFrom (base : Path) (found : List Document) :
    List Path → ExceptT Failure m (List Document)
  | [] => pure found
  | input :: rest => do
    let relative ← normalizeInput base input
    if found.any fun document => document.relative.components == relative.components then
      report .debug ("skipping duplicate input ".toList ++ input.display)
      collectFrom base found rest
    else
      let document := Document.make (base.join input) relative
      match found.find? fun other => other.page.components == document.page.components with
      | some other => throw (.collision other.relative relative document.page)
      | none => collectFrom base (found ++ [document]) rest

/-- The documents of a list of inputs, in the order in which they first occur. -/
def collectDocuments (base : Path) (inputs : List Path) : ExceptT Failure m (List Document) :=
  collectFrom base [] inputs

/-- The directory that inputs and output are relative to. -/
def baseDirectory (base : Option Path) : ExceptT Failure m Path :=
  match base with
  | some path => pure path
  | none => attempt .noWorkingDirectory Workspace.workingDirectory

end Marginalia
