import Marginalia.Proofs.Run.Trace

/-!
# Runs that stop at the first failure

A run has an exact effect.  If it fails before it comes to documents, it has none.  Otherwise the first
documents, all of them if the run succeeds, have got their pages, and the rest of the file system is as it
was, up to directories above pages.

A page is written once and has to stay what it is until the end.  That later pages do not overwrite it is
a matter of names: distinct names below a directory are distinct places as long as there are no links.
Without this condition two pages could be one file under two names.
-/

namespace Marginalia

/-! ## Pages that do not meet -/

/-- Below an unlinked directory, different pages are different places. -/
theorem locate_page_ne {files : FileSystem} {root first second : Path} (spelled : root.bytes ≠ [])
    (unlinked : ∀ directory, files.locate root = .ok directory → files.UnlinkedBelow directory)
    (differ : first.namesOfPage ≠ second.namesOfPage) {location : Location}
    (leads : files.locate (root.join first.page) = .ok location) :
    files.locate (root.join second.page) ≠ .ok location := by
  intro leadsToo
  rw [Path.page_eq_ofNames] at leads leadsToo
  rcases FileSystem.locate_join_ofNames spelled first.namesOfPage_ne_nil
      first.isName_of_mem_namesOfPage unlinked leads with
    ⟨directory, located, placed⟩
  rcases FileSystem.locate_join_ofNames spelled second.namesOfPage_ne_nil
      second.isName_of_mem_namesOfPage unlinked leadsToo with
    ⟨directory', located', placed'⟩
  rw [located] at located'
  cases located'
  exact differ (List.append_cancel_left (placed.symm.trans placed'))

/-! ## The effect of a course -/

/-- The effect of a run that has come to its documents, of which the first `count` have got their pages. -/
structure Effect (configuration : Configuration) (prologue : Prologue) (root : Path)
    (documents : List Document) (count : Nat) (start : World)
    (result : Except Failure (List PageReport)) (after : FileSystem) : Prop where
  within : count ≤ documents.length
  succeeds_iff : (∃ reports, result = .ok reports) ↔ count = documents.length
  /-- A page is made from the bytes that the source held at its turn, with links to all documents. -/
  pages : ∀ index document, index < count → documents[index]? = some document →
    ∃ content,
      (worldAtTurn configuration prologue root documents documents start index).files.readFile
        document.source = .ok content ∧
      after.readFile (root.join document.page) =
        .ok (Utf8.encode (pageText configuration prologue documents document content))
  /-- What is at the place of a page that was not made was there before. -/
  unmade : ∀ index document, count ≤ index → documents[index]? = some document →
    ∀ location content, after.locate (root.join document.page) = .ok location →
      after.get? location = some (.file content) → start.files.get? location = some (.file content)
  kept : ∀ location content, start.files.get? location = some (.file content) →
    (∀ document ∈ documents.take count, after.locate (root.join document.page) ≠ .ok location) →
    after.get? location = some (.file content)
  grows : start.files.Grows after
  /-- Whatever is new is a page, or a directory above a page.  Directories may have been made for the
  page at which the run stopped. -/
  added : ∀ location, start.files.get? location = none → after.get? location ≠ none →
    (∃ document ∈ documents.take count, after.locate (root.join document.page) = .ok location) ∨
      (after.get? location = some .directory ∧ ∃ document ∈ documents.take (count + 1),
        ∃ above : Path, above.Above (root.join document.page) ∧ after.locate above = .ok location)
  reports : ∀ reports, result = .ok reports → reports.length = documents.length ∧
    ∀ index document, documents[index]? = some document →
      ∃ content,
        (worldAtTurn configuration prologue root documents documents start index).files.readFile
          document.source = .ok content ∧
        reports[index]? = some
          { input := document.relative, output := root.join document.page,
            sections := (document.sections prologue content).length, written := true }

section Course

variable {configuration : Configuration} {prologue : Prologue} {base root : Path} {inputs : List Path}
  {documents : List Document} {contents : List Bytes} {start later : World}
  {result : Except Failure (List PageReport)}

/-- A run that succeeds reports on every document, in order. -/
theorem reports_of_course
    (course : Course configuration prologue root documents start documents contents result later)
    (writes : configuration.dryRun = false) {reports : List PageReport}
    (succeeded : result = .ok reports) :
    reports.length = documents.length ∧
      ∀ index document, documents[index]? = some document →
        ∃ content,
          (worldAtTurn configuration prologue root documents documents start index).files.readFile
            document.source = .ok content ∧
          reports[index]? = some
            { input := document.relative, output := root.join document.page,
              sections := (document.sections prologue content).length, written := true } := by
  rcases course.result_eq with ⟨all, reported⟩ | ⟨_, failure, failed, _⟩
  · cases succeeded.symm.trans reported
    refine ⟨by rw [List.length_zipWith, all, Nat.min_self], ?_⟩
    intro index document isDocument
    have reached : index < contents.length := by
      rw [all]
      exact (List.getElem?_eq_some_iff.mp isDocument).1
    have isContent := List.getElem?_eq_getElem reached
    refine ⟨contents[index], course.read isDocument isContent, ?_⟩
    rw [List.getElem?_zipWith, isDocument, isContent]
    simp [pageReport, writes]
  · cases succeeded.symm.trans failed

variable (collected : Collected base inputs documents) (spelled : root.bytes ≠ [])
  (unlinked : ∀ directory, later.files.locate root = .ok directory →
    later.files.UnlinkedBelow directory)
  (course : Course configuration prologue root documents start documents contents result later)

include collected spelled unlinked course

/-- A page that was made stays as it was made, since only documents that come after it write after its turn. -/
theorem readFile_page {index : Nat} {document : Document} {content : Bytes}
    (isDocument : documents[index]? = some document) (reached : contents[index]? = some content) :
    later.files.readFile (root.join document.page) =
      .ok (Utf8.encode (pageText configuration prologue documents document content)) := by
  rcases course.turn reached with ⟨_, isDocument', publishes, changes⟩
  cases isDocument.symm.trans isDocument'
  rcases publishes.page with ⟨location, leads, there⟩
  have leadsLater := changes.grows.locate leads
  have early : document ∈ documents.take (index + 1) := by
    apply List.mem_of_getElem?
    rw [List.getElem?_take, if_pos (Nat.lt_succ_self index), isDocument]
  refine FileSystem.readFile_eq_ok_iff.mpr ⟨location, leadsLater, changes.file_kept there ?_⟩
  rintro path ⟨other, late, rfl⟩
  rw [collected.page other (List.mem_of_mem_drop late)]
  refine locate_page_ne spelled unlinked (collected.apart (index + 1) early late) ?_
  rw [← collected.page document (List.mem_of_mem_take early)]
  exact leadsLater

/-- A page that was not made has not been written. -/
theorem get?_unmade_page {index : Nat} {document : Document}
    (isDocument : documents[index]? = some document) (unmade : contents.length ≤ index)
    {location : Location} {content : Bytes}
    (leads : later.files.locate (root.join document.page) = .ok location)
    (there : later.files.get? location = some (.file content)) :
    start.files.get? location = some (.file content) := by
  have late : document ∈ documents.drop contents.length := by
    apply List.mem_of_getElem?
    rw [List.getElem?_drop, Nat.add_sub_cancel' unmade, isDocument]
  rcases course.changes.only location with same | ⟨path, _, ⟨other, early, rfl⟩, leads', _⟩ |
    ⟨_, isDirectory, _⟩
  · rw [← same, there]
  · rw [collected.page other (List.mem_of_mem_take early)] at leads'
    rw [collected.page document (List.mem_of_mem_drop late)] at leads
    exact absurd leads (locate_page_ne spelled unlinked (collected.apart _ early late) leads')
  · rw [there] at isDirectory
    cases isDirectory

/-- A course over all documents has the effect, with the documents that got their pages counted. -/
theorem effect_of_course (writes : configuration.dryRun = false) :
    Effect configuration prologue root documents contents.length start result later.files where
  within := course.length_le
  succeeds_iff := course.ok_iff
  pages := by
    intro index document reached isDocument
    have isContent := List.getElem?_eq_getElem reached
    exact ⟨contents[index], course.read isDocument isContent,
      readFile_page collected spelled unlinked course isDocument isContent⟩
  unmade := by
    intro index document notReached isDocument location content leads there
    exact get?_unmade_page collected spelled unlinked course isDocument notReached leads there
  kept := by
    intro location content there notWritten
    refine course.changes.file_kept there ?_
    rintro path ⟨document, member, rfl⟩
    exact notWritten document member
  grows := course.changes.grows
  added := by
    intro location absent there
    rcases course.changes.only location with same | ⟨path, _, ⟨document, member, rfl⟩, leads, _⟩ |
      ⟨_, isDirectory, path, ⟨document, member, above⟩, leads⟩
    · exact absurd (same.trans absent) there
    · exact Or.inl ⟨document, member, leads⟩
    · exact Or.inr ⟨isDirectory, document, member, path, above, leads⟩
  reports := fun _ succeeded => reports_of_course course writes succeeded

end Course

/-! ## Whole runs -/

/-- No link is strictly below the directory of pages.  The run may have to make that directory, so its place
is the one to which its path leads when the run is over; if the path leads somewhere before the run, it is
the same place. -/
def OutputUnlinked (configuration : Configuration) (world : World) : Prop :=
  ∀ base place, (outcome (baseDirectory configuration.base) world).1 = .ok base →
    (outcome (run configuration) world).2.files.locate (base.join configuration.output) = .ok place →
    world.files.UnlinkedBelow place

theorem outputUnlinked_of_located {configuration : Configuration} {world : World} {base : Path}
    {place : Location} (chosen : (outcome (baseDirectory configuration.base) world).1 = .ok base)
    (located : world.files.locate (base.join configuration.output) = .ok place)
    (unlinked : world.files.UnlinkedBelow place) : OutputUnlinked configuration world := by
  intro base' place' chosen' located'
  cases chosen.symm.trans chosen'
  cases ((grows_run configuration world).locate located).symm.trans located'
  exact unlinked

/-- A failure of a document is not one that the run can meet before documents, once all inputs resolve. -/
theorem not_beforeDocuments_of_atDocument {configuration : Configuration} {base : Path}
    {documents : List Document} {world start : World} {failure : Failure}
    (prepared : outcome (prepare configuration) world = (.ok (base, documents), start))
    (atDocument : failure.AtDocument) : ¬ failure.BeforeDocuments configuration world := by
  rcases prepare_ok prepared with ⟨chosen, _, resolved, directory, located⟩
  intro before
  cases failure with
  | cannotRead path fault =>
    rcases before with ⟨base', chosen', ⟨member, unresolved⟩ | ⟨rfl, unresolved⟩⟩
    · cases chosen.symm.trans chosen'
      rcases resolved path member with ⟨location, leads⟩
      cases leads.symm.trans unresolved
    · cases chosen.symm.trans chosen'
      cases located.symm.trans unresolved
  | cannotCreateDirectory _ _ => exact before
  | cannotWrite _ _ => exact before
  | noInputs => exact atDocument
  | noWorkingDirectory _ => exact atDocument
  | badPattern _ => exact atDocument
  | collision _ _ _ => exact atDocument
  | unlistablePath => exact atDocument

/-- A run either leaves all files as they were or has made the pages of its first documents and nothing
else, and the failure tells which. -/
theorem run_fails_fast (configuration : Configuration) (world : World)
    (writes : configuration.dryRun = false) (unlinked : OutputUnlinked configuration world) :
    (∀ failure, (outcome (run configuration) world).1 = .error failure →
        failure.BeforeDocuments configuration world →
        (outcome (run configuration) world).2.files = world.files) ∧
      ((∀ failure, (outcome (run configuration) world).1 = .error failure →
          ¬ failure.BeforeDocuments configuration world) →
        ∃ base documents prologue start count,
          outcome (prepare configuration) world = (.ok (base, documents), start) ∧
          start.files = world.files ∧ configuration.prologue.prologue = .ok prologue ∧
          Effect configuration prologue (base.join configuration.output) documents count start
            (outcome (run configuration) world).1 (outcome (run configuration) world).2.files) := by
  rcases run_cases writes world with ⟨failure, failed, early, kept⟩ |
    ⟨base, documents, prologue, start, contents, prepared, kept, chosen, course⟩
  · exact ⟨fun _ _ _ => kept, fun late => absurd early (late failure failed)⟩
  · rcases prepare_ok prepared with ⟨isBase, collected, _, directory, located⟩
    have spelled : (base.join configuration.output).bytes ≠ [] := by
      rcases FileSystem.resolve_eq_ok_iff.mp (FileSystem.locate_eq_ok_iff.mp located) with
        ⟨⟨_, spelled, _⟩, _⟩
      exact Path.join_ne_nil spelled _
    have unlinkedLater : ∀ place,
        (outcome (run configuration) world).2.files.locate (base.join configuration.output) =
          .ok place →
        (outcome (run configuration) world).2.files.UnlinkedBelow place := by
      intro place leads names target below linked
      have grows := course.changes.grows
      rw [kept] at grows
      exact unlinked base place isBase leads names target below (grows.link_of_later linked)
    constructor
    · intro failure failed early
      rcases course.result_eq with ⟨_, succeeded⟩ | ⟨_, failure', failed', atDocument⟩
      · cases failed.symm.trans succeeded
      · cases failed.symm.trans failed'
        exact absurd early (not_beforeDocuments_of_atDocument prepared atDocument)
    · intro _
      exact ⟨base, documents, prologue, start, contents.length, prepared, kept, chosen,
        effect_of_course collected spelled unlinkedLater course writes⟩

/-- A file and two empty directories. -/
def worldWithDirectories : World where
  files :=
    { entries :=
        [([Utf8.encode "a".toList], .file (Utf8.encode "# A\nb\n".toList)),
          ([Utf8.encode "d".toList], .directory), ([Utf8.encode "docs".toList], .directory)],
      workingDirectory := some [] }

/-- The file and one of the directories as inputs, the other for pages. -/
def configurationWithDirectory : Configuration where
  inputs := [.ofText "a".toList, .ofText "d".toList]
  prologue := .none

/-- A directory resolves but cannot be read, so the run stops at its second document. -/
theorem run_fails_fast_at_directory :
    configurationWithDirectory.dryRun = false ∧
      OutputUnlinked configurationWithDirectory worldWithDirectories ∧
      ∃ base documents prologue start count,
        outcome (prepare configurationWithDirectory) worldWithDirectories =
          (.ok (base, documents), start) ∧
        start.files = worldWithDirectories.files ∧
        configurationWithDirectory.prologue.prologue = .ok prologue ∧
        Effect configurationWithDirectory prologue (base.join configurationWithDirectory.output)
          documents count start
          (outcome (run configurationWithDirectory) worldWithDirectories).1
          (outcome (run configurationWithDirectory) worldWithDirectories).2.files := by
  have unlinked : OutputUnlinked configurationWithDirectory worldWithDirectories := by
    have located : worldWithDirectories.files.locate (.ofText "/docs".toList) =
        .ok [Utf8.encode "docs".toList] := rfl
    refine outputUnlinked_of_located rfl located ?_
    intro names target below linked
    rcases List.exists_cons_of_ne_nil below with ⟨name, rest, rfl⟩
    cases linked
  refine ⟨rfl, unlinked, ?_⟩
  apply (run_fails_fast configurationWithDirectory worldWithDirectories rfl unlinked).2
  have result : (outcome (run configurationWithDirectory) worldWithDirectories).1 =
      .error (.cannotRead (.ofText "/d".toList) .isDirectory) := rfl
  intro failure failed
  cases result.symm.trans failed
  rintro ⟨base, chosen, ⟨member, _⟩ | ⟨isBase, _⟩⟩
  · revert member
    decide
  · cases chosen
    revert isBase
    decide

end Marginalia
