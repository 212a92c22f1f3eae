import Marginalia.Proofs.Run.Trace

/-!
# Runs and their sources

Pages go to a directory that may hold inputs, and a page is written without looking at what it replaces.  So
a run can overwrite one of its own inputs, and when that input comes later it reads the page instead.  This
happens only where the path of a page leads to the input; every other source is safe, and every other page
shows what its source held when the run began.

Links are allowed everywhere here: to which file a path leads is settled by the file system, not by the
spelling.
-/

namespace Marginalia

/-- What a run that has come to its documents does to its sources.  The first `count` documents have got
their pages. -/
structure SourcesSpared (configuration : Configuration) (prologue : Prologue) (base root : Path)
    (documents : List Document) (count : Nat) (start : World)
    (result : Except Failure (List PageReport)) (after : FileSystem) : Prop where
  within : count ≤ documents.length
  succeeds_iff : (∃ reports, result = .ok reports) ↔ count = documents.length
  /-- An input keeps its bytes unless the path of a page that was made leads to it. -/
  kept : ∀ input ∈ configuration.inputs, ∀ location content,
    start.files.locate (base.join input) = .ok location →
    start.files.get? location = some (.file content) →
    (∀ document ∈ documents.take count, after.locate (root.join document.page) ≠ .ok location) →
    after.get? location = some (.file content)
  /-- A page is made from the bytes at the start unless the path of an earlier page leads to its source. -/
  made : ∀ index document, index < count → documents[index]? = some document →
    ∃ location content, start.files.locate document.source = .ok location ∧
      (worldAtTurn configuration prologue root documents documents start index).files.readFile
        document.source = .ok content ∧
      (worldAtTurn configuration prologue root documents documents start (index + 1)).files.readFile
        (root.join document.page) =
          .ok (Utf8.encode (pageText configuration prologue documents document content)) ∧
      ((∀ earlier ∈ documents.take index, after.locate (root.join earlier.page) ≠ .ok location) →
        start.files.readFile document.source = .ok content)
  /-- Once these pages have been made, no file is written. -/
  ended : ∀ location content, after.get? location = some (.file content) ↔
    (worldAtTurn configuration prologue root documents documents start count).files.get? location =
      some (.file content)

section Course

variable {configuration : Configuration} {prologue : Prologue} {root : Path}
  {documents : List Document} {contents : List Bytes} {start later : World}
  {result : Except Failure (List PageReport)}

/-- The bytes that a document is made from are those at the start, unless an earlier page replaced them. -/
theorem readFile_at_turn (writes : configuration.dryRun = false)
    (course : Course configuration prologue root documents start documents contents result later)
    {index : Nat} {content : Bytes} (reached : contents[index]? = some content) {source : Path}
    {location : Location} (leads : start.files.locate source = .ok location)
    (read : (worldAtTurn configuration prologue root documents documents start index).files.readFile
      source = .ok content)
    (spared : ∀ earlier ∈ documents.take index,
      later.files.locate (root.join earlier.page) ≠ .ok location) :
    start.files.readFile source = .ok content := by
  rcases course.turn reached with ⟨document, _, publishes, changes⟩
  have fromTurn := publishes.changes.grows.trans changes.grows
  have toTurn := changes_worldAtTurn prologue root documents writes documents start index
  rcases FileSystem.readFile_eq_ok_iff.mp read with ⟨location', leads', there⟩
  cases (toTurn.grows.locate leads).symm.trans leads'
  rcases toTurn.only location with same | ⟨path, _, ⟨earlier, member, rfl⟩, replaced, _⟩ |
    ⟨_, isDirectory, _⟩
  · rw [same] at there
    exact FileSystem.readFile_eq_ok_iff.mpr ⟨location, leads, there⟩
  · exact absurd (fromTurn.locate replaced) (spared earlier member)
  · rw [there] at isDirectory
    cases isDirectory

/-- No file is written after the last page, so files are the same then and at the end. -/
theorem get?_file_iff_of_course
    (course : Course configuration prologue root documents start documents contents result later)
    (location : Location) (content : Bytes) :
    later.files.get? location = some (.file content) ↔
      (worldAtTurn configuration prologue root documents documents start contents.length).files.get?
        location = some (.file content) := by
  rcases course.stop.only location with same | ⟨_, _, impossible, _⟩ | ⟨absent, isDirectory, _⟩
  · rw [same]
  · exact impossible.elim
  · rw [absent, isDirectory]
    simp

theorem sourcesSpared_of_course {base : Path} (writes : configuration.dryRun = false)
    (collected : Collected base configuration.inputs documents)
    (resolved : ∀ input ∈ configuration.inputs,
      ∃ location, start.files.locate (base.join input) = .ok location)
    (course : Course configuration prologue root documents start documents contents result later) :
    SourcesSpared configuration prologue base root documents contents.length start result
      later.files where
  within := course.length_le
  succeeds_iff := course.ok_iff
  kept := by
    intro input _ location content _ there spared
    refine course.changes.file_kept there ?_
    rintro path ⟨document, member, rfl⟩
    exact spared document member
  made := by
    intro index document reached isDocument
    rcases collected.source document (List.mem_of_getElem? isDocument) with
      ⟨input, listed, isSource⟩
    rcases resolved input listed with ⟨location, leads⟩
    rw [← isSource] at leads
    have isContent := List.getElem?_eq_getElem reached
    rcases course.turn isContent with ⟨_, isDocument', publishes, _⟩
    cases isDocument.symm.trans isDocument'
    exact ⟨location, contents[index], leads, publishes.read,
      FileSystem.readFile_eq_ok_iff.mpr publishes.page,
      readFile_at_turn writes course isContent leads publishes.read⟩
  ended := get?_file_iff_of_course course

end Course

/-- A run writes over a source only where one of its pages leads to that source, and reads a page back only
where an earlier page leads to what it reads. -/
theorem run_spares_sources (configuration : Configuration) (world : World) :
    (configuration.dryRun = true → (outcome (run configuration) world).2.files = world.files) ∧
      (configuration.dryRun = false →
        (∃ failure, (outcome (run configuration) world).1 = .error failure ∧
            failure.BeforeDocuments configuration world ∧
            (outcome (run configuration) world).2.files = world.files) ∨
          ∃ base documents prologue start count,
            outcome (prepare configuration) world = (.ok (base, documents), start) ∧
            start.files = world.files ∧ configuration.prologue.prologue = .ok prologue ∧
            SourcesSpared configuration prologue base (base.join configuration.output) documents count
              start (outcome (run configuration) world).1
              (outcome (run configuration) world).2.files) := by
  refine ⟨fun dry => keepsFiles_run dry world, fun writes => ?_⟩
  rcases run_cases writes world with early |
    ⟨base, documents, prologue, start, contents, prepared, kept, chosen, course⟩
  · exact Or.inl early
  · rcases prepare_ok prepared with ⟨_, collected, resolved, _⟩
    rw [← kept] at resolved
    exact Or.inr ⟨base, documents, prologue, start, contents.length, prepared, kept, chosen,
      sourcesSpared_of_course writes collected resolved course⟩

/-- A file, and another one whose name is that of the first one's page. -/
def worldWithPageName : World where
  files :=
    { entries :=
        [([Utf8.encode "a".toList], .file (Utf8.encode "b\n".toList)),
          ([Utf8.encode "a.html".toList], .file (Utf8.encode "c\n".toList))],
      workingDirectory := some [] }

/-- Both files as inputs, with pages beside them. -/
def configurationInPlace : Configuration where
  inputs := [.ofText "a".toList, .ofText "a.html".toList]
  output := .ofText ".".toList
  prologue := .none

/-- Where pages are beside their sources, sources are still spared up to pages that lead to them. -/
theorem run_spares_sources_in_place :
    configurationInPlace.dryRun = false ∧
      ∃ base documents prologue start count,
        outcome (prepare configurationInPlace) worldWithPageName = (.ok (base, documents), start) ∧
        start.files = worldWithPageName.files ∧
        configurationInPlace.prologue.prologue = .ok prologue ∧
        SourcesSpared configurationInPlace prologue base (base.join configurationInPlace.output)
          documents count start (outcome (run configurationInPlace) worldWithPageName).1
          (outcome (run configurationInPlace) worldWithPageName).2.files := by
  refine ⟨rfl, ?_⟩
  rcases (run_spares_sources configurationInPlace worldWithPageName).2 rfl with
    ⟨failure, failed, _⟩ | spared
  · have succeeded : (outcome (run configurationInPlace) worldWithPageName).1.isOk = true := by
      decide +kernel
    rw [failed] at succeeded
    cases succeeded
  · exact spared

/-- The documents of the two files. -/
def documentsInPlace : List Document :=
  [.make (.ofText "/a".toList) (.ofText "a".toList),
    .make (.ofText "/a.html".toList) (.ofText "a.html".toList)]

/-- The second input is replaced by the page of the first, and that is what is read at its turn. -/
theorem run_overwrites_source :
    (outcome (prepare configurationInPlace) worldWithPageName).1 =
        .ok (.ofText "/".toList, documentsInPlace) ∧
      worldWithPageName.files.locate (.ofText "/a.html".toList) = .ok [Utf8.encode "a.html".toList] ∧
      worldWithPageName.files.get? [Utf8.encode "a.html".toList] =
        some (.file (Utf8.encode "c\n".toList)) ∧
      (outcome (run configurationInPlace) worldWithPageName).2.files.get?
        [Utf8.encode "a.html".toList] ≠ some (.file (Utf8.encode "c\n".toList)) ∧
      (outcome (run configurationInPlace) worldWithPageName).1.isOk = true ∧
      (worldAtTurn configurationInPlace .none
          ((Path.ofText "/".toList).join configurationInPlace.output) documentsInPlace documentsInPlace
          (outcome (prepare configurationInPlace) worldWithPageName).2 1).files.get?
        [Utf8.encode "a.html".toList] ≠ some (.file (Utf8.encode "c\n".toList)) := by
  refine ⟨rfl, rfl, rfl, ?_, ?_, ?_⟩
  · decide +kernel
  · decide +kernel
  · decide +kernel

end Marginalia
