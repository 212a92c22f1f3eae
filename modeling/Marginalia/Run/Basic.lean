import Marginalia.Run.Document
import Marginalia.Text.Json

/-!
# Runs

A run finds the documents of all inputs before it writes anything, then goes through them in order: it
reads a file, makes its page and writes it.  It stops at the first failure and leaves the pages that it
has written.  The sections of all documents can also be listed instead.
-/

namespace Marginalia

/-- What became of a document. -/
structure PageReport where
  input : Path
  output : Path
  sections : Nat
  written : Bool
  deriving DecidableEq, Repr

/-- The sections of a document. -/
structure Listing where
  path : Path
  sections : List Section
  deriving DecidableEq, Repr

variable {m : Type → Type} [Monad m] [Workspace m]

/-- Write a page, with the directories above it. -/
def writePage (path : Path) (html : Text) : ExceptT Failure m Unit := do
  match path.parent? with
  | some parent =>
    attempt (.cannotCreateDirectory parent) (Workspace.makeDirectories parent)
  | none => pure ()
  attempt (.cannotWrite path) (Workspace.writeFile path (Utf8.encode html))

/-- Read a document and give its sections. -/
def readSections (prologue : Prologue) (document : Document) :
    ExceptT Failure m (List Section) := do
  let content ← attempt (.cannotRead document.source) (Workspace.readFile document.source)
  pure (document.sections prologue content)

/-- The base directory and the documents of a configuration. -/
def prepare (configuration : Configuration) : ExceptT Failure m (Path × List Document) := do
  if configuration.inputs.isEmpty then throw .noInputs
  let base ← baseDirectory configuration.base
  let documents ← collectDocuments base configuration.inputs
  pure (base, documents)

/-- The prologue of a configuration. -/
def chosenPrologue (configuration : Configuration) : ExceptT Failure m Prologue :=
  match configuration.prologue.prologue with
  | .ok prologue => pure prologue
  | .error cause => throw (.badPattern cause)

/-- Make the page of one document. -/
def documentOne (configuration : Configuration) (prologue : Prologue) (root : Path)
    (documents : List Document) (document : Document) : ExceptT Failure m PageReport := do
  report .info ("Generating documentation: ".toList ++ document.label)
  let parts ← readSections prologue document
  let output := root.join document.page
  if !configuration.dryRun then
    writePage output (document.toPage configuration documents parts).html
  report .debug (document.label ++ ": ".toList ++ Nat.toDigits 10 parts.length ++
    " sections -> ".toList ++ output.display)
  pure
    { input := document.relative, output := output, sections := parts.length,
      written := !configuration.dryRun }

/-- Make the pages of the given documents, among all documents of a run. -/
def documentAll (configuration : Configuration) (prologue : Prologue) (root : Path)
    (documents : List Document) : List Document → ExceptT Failure m (List PageReport)
  | [] => pure []
  | document :: rest => do
    let first ← documentOne configuration prologue root documents document
    let others ← documentAll configuration prologue root documents rest
    pure (first :: others)

/-- Make the pages of all inputs. -/
def run (configuration : Configuration) : ExceptT Failure m (List PageReport) := do
  let (base, documents) ← prepare configuration
  let prologue ← chosenPrologue configuration
  documentAll configuration prologue (base.join configuration.output) documents documents

/-- List the sections of the given documents. -/
def listAll (prologue : Prologue) : List Document → ExceptT Failure m (List Listing)
  | [] => pure []
  | document :: rest => do
    let parts ← readSections prologue document
    let others ← listAll prologue rest
    pure ({ path := document.relative, sections := parts } :: others)

/-- List the sections of all inputs. -/
def listSections (configuration : Configuration) : ExceptT Failure m (List Listing) := do
  let (_, documents) ← prepare configuration
  let prologue ← chosenPrologue configuration
  listAll prologue documents

/-- The summary that ends a run. -/
def summary (reports : List PageReport) : Text :=
  let files := Nat.toDigits 10 reports.length ++ " files (".toList ++
    Nat.toDigits 10 ((reports.map (·.sections)).foldl Nat.add 0) ++ " sections)".toList
  if reports.all (·.written) then "Documented ".toList ++ files
  else "Dry run: ".toList ++ files ++ ", nothing written".toList

/-! ## Listings as JSON -/

/-- A section as JSON. -/
def Section.toJson (part : Section) : JsonValue :=
  .object [("comment".toList, .text part.comment), ("code".toList, .text part.code)]

/-- The sections of a document as JSON, if its path is text. -/
def Listing.toJson? (listing : Listing) : Option JsonValue :=
  (Utf8.decode? listing.path.bytes).map fun path =>
    .object [("path".toList, .text path),
      ("sections".toList, .array (listing.sections.map Section.toJson))]

/-- Listings as JSON text. -/
def listingsJson (listings : List Listing) : Except Failure Text :=
  match listings.mapM Listing.toJson? with
  | some items => .ok ((JsonValue.array items).render 0)
  | none => .error .unlistablePath

end Marginalia
