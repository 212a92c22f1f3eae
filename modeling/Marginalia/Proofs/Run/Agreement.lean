import Mathlib.Data.List.Forall2
import Marginalia.Proofs.Run.FailFast
import Marginalia.Proofs.Run.Sources

/-!
# Runs, dry runs and listings

Documents are gone through in three ways: their pages are made, the pages that would be made are only
reported, or their sections are listed.  All three find the same documents and read them in the same order.
What a dry run and a listing give is then settled by what the documents hold, which `contentsOf` collects,
or by the first of them that cannot be read.

A run that makes pages sees files that it has changed itself.  It reports the same as a dry run if no page
path leads to an input.  Where a page path leads is asked of the files that the run leaves: before that
it may lead nowhere, for instance because it passes through a directory that is yet to be made.
-/

namespace Marginalia

/-- The bytes of documents in order, or the failure to read the first one that cannot be read. -/
def contentsOf (files : FileSystem) (documents : List Document) : Except Failure (List Bytes) :=
  documents.mapM fun document =>
    (files.readFile document.source).mapError (.cannotRead document.source)

/-- The listing of a document that holds the given bytes. -/
def listing (prologue : Prologue) (document : Document) (content : Bytes) : Listing where
  path := document.relative
  sections := document.sections prologue content

/-- What a dry run reports on a document agrees with the listing of its sections. -/
structure PageReport.Previews (report : PageReport) (listing : Listing) : Prop where
  input : report.input = listing.path
  sections : report.sections = listing.sections.length
  nonempty : 1 ≤ report.sections
  written : report.written = false

/-- No page of a run leads to one of its inputs, once the run is over. -/
def PagesMissInputs (configuration : Configuration) (world : World) (reports : List PageReport)
    (after : FileSystem) : Prop :=
  ∀ base, (outcome (baseDirectory configuration.base) world).1 = .ok base →
    ∀ report ∈ reports, ∀ input ∈ configuration.inputs, ∀ location,
      world.files.locate (base.join input) = .ok location → after.locate report.output ≠ .ok location

/-! ## Going through documents without changing files -/

section Contents

variable {files : FileSystem} {document : Document} {rest : List Document}

theorem contentsOf_cons_of_error {fault : Fault} (failed : files.readFile document.source = .error fault) :
    contentsOf files (document :: rest) = .error (.cannotRead document.source fault) := by
  rw [contentsOf, List.mapM_cons, failed]
  rfl

theorem contentsOf_cons_of_ok {content : Bytes} (read : files.readFile document.source = .ok content) :
    contentsOf files (document :: rest) = (contentsOf files rest).map (content :: ·) := by
  rw [contentsOf, List.mapM_cons, read, ← contentsOf]
  cases contentsOf files rest <;> rfl

theorem contentsOf_eq_ok {documents : List Document} {contents : List Bytes}
    (read : List.Forall₂ (fun document content => files.readFile document.source = .ok content)
      documents contents) :
    contentsOf files documents = .ok contents := by
  induction read with
  | nil => rfl
  | cons first others ih =>
    rw [contentsOf_cons_of_ok first, ih]
    rfl

end Contents

/-- The action looks at a document, changes no file, and makes something of the bytes that it reads. -/
structure Surveys {α : Type} (item : Document → Bytes → α) (document : Document)
    (action : ExceptT Failure (StateM World) α) : Prop where
  keeps : KeepsFiles action
  result : ∀ world, (outcome action world).1 =
    ((world.files.readFile document.source).mapError (.cannotRead document.source)).map (item document)

/-- Surveying documents one after the other gives an item for each, if all of them can be read.  None of the
surveys changes a file, so the other documents hold what they held before it. -/
theorem outcome_mapM_survey {α : Type} {item : Document → Bytes → α}
    {survey : Document → ExceptT Failure (StateM World) α}
    (surveys : ∀ document, Surveys item document (survey document)) (part : List Document)
    (world : World) :
    (outcome (part.mapM survey) world).1 =
      (contentsOf world.files part).map (part.zipWith item) := by
  induction part generalizing world with
  | nil => rfl
  | cons document rest ih =>
    have result := (surveys document).result world
    have kept := (surveys document).keeps world
    rw [List.mapM_cons, outcome_bind]
    cases turn : outcome (survey document) world with
    | mk first later =>
      rw [turn] at result kept
      cases read : world.files.readFile document.source with
      | error fault =>
        rw [read] at result
        cases result
        rw [contentsOf_cons_of_error read]
        rfl
      | ok content =>
        rw [read] at result
        cases result
        have further := ih later
        rw [kept] at further
        rw [contentsOf_cons_of_ok read]
        simp only [outcome_bind]
        cases left : outcome (rest.mapM survey) later with
        | mk others last =>
          rw [left] at further
          cases contents : contentsOf world.files rest with
          | error failure =>
            rw [contents] at further
            cases further
            rfl
          | ok more =>
            rw [contents] at further
            cases further
            rfl

section Documents

variable (prologue : Prologue)

def listOne (document : Document) : ExceptT Failure (StateM World) Listing := do
  let parts ← readSections prologue document
  pure { path := document.relative, sections := parts }

theorem listAll_eq_mapM (part : List Document) :
    (listAll prologue part : ExceptT Failure (StateM World) _) = part.mapM (listOne prologue) := by
  induction part with
  | nil => rfl
  | cons document rest ih =>
    rw [List.mapM_cons, listAll, ih, listOne, bind_assoc]
    simp only [pure_bind]

theorem surveys_listOne (document : Document) :
    Surveys (listing prologue) document (listOne prologue document) where
  keeps := .bind (keepsFiles_readSections prologue document) fun _ => .pure _
  result := by
    intro world
    unfold listOne readSections
    simp only [outcome_bind, outcome_readFile]
    cases world.files.readFile document.source <;> rfl

variable {configuration : Configuration} (root : Path) (documents : List Document)

theorem documentAll_eq_mapM (part : List Document) :
    (documentAll configuration prologue root documents part : ExceptT Failure (StateM World) _) =
      part.mapM (documentOne configuration prologue root documents) := by
  induction part with
  | nil => rfl
  | cons document rest ih => rw [List.mapM_cons, documentAll, ih]

theorem surveys_documentOne (dry : configuration.dryRun = true) (document : Document) :
    Surveys (pageReport configuration prologue root) document
      (documentOne configuration prologue root documents document) where
  keeps := keepsFiles_documentOne dry prologue root documents document
  result := by
    intro world
    unfold documentOne readSections
    simp only [outcome_bind, outcome_report, outcome_readFile, dry, Bool.not_true, Bool.false_eq_true,
      if_false]
    cases world.files.readFile document.source with
    | error fault => rfl
    | ok content =>
      simp only [mapError_ok, outcome_pure]
      simp [pageReport, dry, Except.map]

end Documents

/-! ## Finding the same documents -/

/-- Whether pages are to be written makes no difference before the documents, and a listing fails there like
a run.  After that all of them go through the same documents. -/
theorem run_listSections_cases (configuration : Configuration) (world : World) :
    (∃ failure, (outcome (listSections configuration) world).1 = .error failure ∧
        ∀ dry, (outcome (run { configuration with dryRun := dry }) world).1 = .error failure) ∨
      ∃ base documents prologue start,
        outcome (prepare configuration) world = (.ok (base, documents), start) ∧
        start.files = world.files ∧
        outcome (listSections configuration) world = outcome (listAll prologue documents) start ∧
        ∀ dry, outcome (run { configuration with dryRun := dry }) world =
          outcome (documentAll { configuration with dryRun := dry } prologue
            (base.join configuration.output) documents documents) start := by
  have kept := keepsFiles_prepare configuration world
  have prepareSame : ∀ dry, (prepare { configuration with dryRun := dry } :
      ExceptT Failure (StateM World) _) = prepare configuration := fun _ => rfl
  have chosenSame : ∀ dry, (chosenPrologue { configuration with dryRun := dry } :
      ExceptT Failure (StateM World) _) = chosenPrologue configuration := fun _ => rfl
  unfold run listSections
  simp only [outcome_bind, prepareSame, chosenSame]
  cases prepared : outcome (prepare configuration) world with
  | mk result start =>
    rw [prepared] at kept
    cases result with
    | error failure => exact Or.inl ⟨failure, rfl, fun _ => rfl⟩
    | ok found =>
      unfold chosenPrologue
      cases configuration.prologue.prologue with
      | error cause => exact Or.inl ⟨.badPattern cause, rfl, fun _ => rfl⟩
      | ok prologue => exact Or.inr ⟨found.1, found.2, prologue, start, rfl, kept, rfl, fun _ => rfl⟩

/-! ## Agreement -/

theorem Document.one_le_length_sections (document : Document) (prologue : Prologue) (content : Bytes) :
    1 ≤ (document.sections prologue content).length := by
  simp [Document.sections, Segmenter.segment, CommentSyntax.sections, Segmentation.drafts]

theorem forall₂_zipWith_zipWith {α β γ δ : Type} {related : γ → δ → Prop} {f : α → β → γ} {g : α → β → δ}
    (relates : ∀ a b, related (f a b) (g a b)) (as : List α) (bs : List β) :
    List.Forall₂ related (as.zipWith f bs) (as.zipWith g bs) := by
  induction as generalizing bs with
  | nil => exact .nil
  | cons a as ih =>
    cases bs with
    | nil => exact .nil
    | cons b bs => exact .cons (relates a b) (ih bs)

/-- A dry run and a listing fail alike or agree on every document. -/
theorem dryRun_previews_listing (configuration : Configuration) (world : World) :
    (∃ failure,
        (outcome (run { configuration with dryRun := true }) world).1 = .error failure ∧
        (outcome (listSections configuration) world).1 = .error failure) ∨
      ∃ reports listings,
        (outcome (run { configuration with dryRun := true }) world).1 = .ok reports ∧
        (outcome (listSections configuration) world).1 = .ok listings ∧
        List.Forall₂ PageReport.Previews reports listings := by
  rcases run_listSections_cases configuration world with ⟨failure, listed, ran⟩ |
    ⟨base, documents, prologue, start, _, _, listed, ran⟩
  · exact Or.inl ⟨failure, ran true, listed⟩
  · rw [ran true, listed, documentAll_eq_mapM, listAll_eq_mapM,
      outcome_mapM_survey (surveys_documentOne prologue (base.join configuration.output) documents rfl),
      outcome_mapM_survey (surveys_listOne prologue)]
    cases contentsOf start.files documents with
    | error failure => exact Or.inl ⟨failure, rfl, rfl⟩
    | ok contents =>
      refine Or.inr ⟨_, _, rfl, rfl, forall₂_zipWith_zipWith (fun document content => ?_) documents contents⟩
      exact ⟨rfl, rfl, document.one_le_length_sections prologue content, rfl⟩

/-- A run that succeeds has read what was there at the start, if no page of it leads to an input. -/
theorem contentsOf_of_course {configuration : Configuration} {prologue : Prologue} {base root : Path}
    {inputs : List Path} {documents : List Document} {contents : List Bytes}
    {reports : List PageReport} {start later : World} (writes : configuration.dryRun = false)
    (collected : Collected base inputs documents)
    (resolved : ∀ input ∈ inputs, ∃ location, start.files.locate (base.join input) = .ok location)
    (course : Course configuration prologue root documents start documents contents (.ok reports) later)
    (missed : ∀ report ∈ reports, ∀ input ∈ inputs, ∀ location,
      start.files.locate (base.join input) = .ok location →
      later.files.locate report.output ≠ .ok location) :
    contentsOf start.files documents = .ok contents := by
  have all : contents.length = documents.length := course.ok_iff.mp ⟨reports, rfl⟩
  apply contentsOf_eq_ok
  rw [List.forall₂_iff_get]
  refine ⟨all.symm, ?_⟩
  intro index isDocument isContent
  have document_eq := List.getElem?_eq_getElem isDocument
  have content_eq := List.getElem?_eq_getElem isContent
  rcases collected.source _ (List.getElem_mem isDocument) with ⟨input, listed, isSource⟩
  rcases resolved input listed with ⟨location, leads⟩
  have spared : ∀ earlier ∈ documents.take index,
      later.files.locate (root.join earlier.page) ≠ .ok location := by
    intro earlier member
    rcases List.getElem?_of_mem (List.mem_of_mem_take member) with ⟨turn, isEarlier⟩
    rcases (reports_of_course course writes rfl).2 turn earlier isEarlier with ⟨_, _, isReport⟩
    exact missed _ (List.mem_of_getElem? isReport) input listed location leads
  rw [← isSource] at leads
  exact readFile_at_turn writes course content_eq leads (course.read document_eq content_eq) spared

/-- A run that succeeds reports what a dry run reports, if no page of it leads to an input: both come down to the
contents that the documents had at the start. -/
theorem reports_eq_dryRun (configuration : Configuration) (world : World) {reports : List PageReport}
    (succeeded : (outcome (run { configuration with dryRun := false }) world).1 = .ok reports)
    (missed : PagesMissInputs configuration world reports
      (outcome (run { configuration with dryRun := false }) world).2.files) :
    ∃ previews, (outcome (run { configuration with dryRun := true }) world).1 = .ok previews ∧
      reports = previews.map ({ · with written := true }) := by
  rcases run_listSections_cases configuration world with ⟨failure, _, ran⟩ |
    ⟨base, documents, prologue, start, prepared, kept, _, ran⟩
  · cases succeeded.symm.trans (ran false)
  · rcases prepare_ok prepared with ⟨isBase, collected, resolved, _⟩
    have missedHere := missed base isBase
    rw [← kept] at resolved missedHere
    rw [ran false] at succeeded missedHere
    have taken : ∃ contents, Course { configuration with dryRun := false } prologue
        (base.join configuration.output) documents start documents contents _ _ :=
      course_documentAll prologue (base.join configuration.output) documents rfl documents start
    rcases taken with ⟨contents, course⟩
    rw [succeeded] at course
    have read : contentsOf start.files documents = .ok contents :=
      contentsOf_of_course rfl collected resolved course missedHere
    rcases course.result_eq with ⟨_, isReports⟩ | ⟨_, _, failed, _⟩
    · cases isReports
      refine ⟨documents.zipWith (pageReport { configuration with dryRun := true } prologue
        (base.join configuration.output)) contents, ?_, ?_⟩
      · rw [ran true, documentAll_eq_mapM, outcome_mapM_survey (surveys_documentOne prologue
          (base.join configuration.output) documents rfl), read]
        rfl
      · rw [List.map_zipWith]
        rfl
    · cases failed

/-- The three ways agree.  A dry run and a listing change no file, and fail alike or agree on every document;
a run that succeeds reports what a dry run reports, but as written, unless one of its pages leads to an
input. -/
theorem run_dryRun_listSections_agree (configuration : Configuration) (world : World) :
    let dry := outcome (run { configuration with dryRun := true }) world
    let full := outcome (run { configuration with dryRun := false }) world
    let listed := outcome (listSections configuration) world
    dry.2.files = world.files ∧ listed.2.files = world.files ∧
      ((∃ failure, dry.1 = .error failure ∧ listed.1 = .error failure) ∨
        ∃ reports listings, dry.1 = .ok reports ∧ listed.1 = .ok listings ∧
          List.Forall₂ PageReport.Previews reports listings) ∧
      ∀ reports, full.1 = .ok reports →
        PagesMissInputs configuration world reports full.2.files →
        ∃ previews, dry.1 = .ok previews ∧ reports = previews.map ({ · with written := true }) := by
  intro dry full listed
  refine ⟨?_, ?_, ?_, ?_⟩
  · exact keepsFiles_run rfl world
  · exact keepsFiles_listSections configuration world
  · exact dryRun_previews_listing configuration world
  · intro reports succeeded missed
    exact reports_eq_dryRun configuration world succeeded missed

/-- A file, and a page that was made earlier. -/
def worldWithEarlierPage : World where
  files :=
    { entries :=
        [([Utf8.encode "b.c".toList], .file (Utf8.encode "// x\ny\n// z\n".toList)),
          ([Utf8.encode "docs".toList], .directory),
          ([Utf8.encode "docs".toList, Utf8.encode "a.html".toList],
            .file (Utf8.encode "<p>\n".toList))],
      workingDirectory := some [] }

/-- The file and the page as inputs, the file twice.  Pages go where the earlier page is. -/
def configurationWithEarlierPage : Configuration where
  inputs := [.ofText "b.c".toList, .ofText "docs/a.html".toList, .ofText "docs/../b.c".toList]
  prologue := .none

def reportsWithEarlierPage : List PageReport :=
  [{ input := .ofText "b.c".toList, output := .ofText "/docs/b.c.html".toList, sections := 2,
     written := true },
    { input := .ofText "docs/a.html".toList, output := .ofText "/docs/docs/a.html.html".toList,
      sections := 1, written := true }]

/-- Pages may go to a directory that holds inputs, as long as they are other files. -/
theorem run_dryRun_listSections_agree_beside_input :
    (outcome (run configurationWithEarlierPage) worldWithEarlierPage).1 = .ok reportsWithEarlierPage ∧
      PagesMissInputs configurationWithEarlierPage worldWithEarlierPage reportsWithEarlierPage
        (outcome (run configurationWithEarlierPage) worldWithEarlierPage).2.files ∧
      ∃ previews,
        (outcome (run { configurationWithEarlierPage with dryRun := true }) worldWithEarlierPage).1 =
          .ok previews ∧
        reportsWithEarlierPage = previews.map ({ · with written := true }) := by
  have succeeded : (outcome (run configurationWithEarlierPage) worldWithEarlierPage).1 =
      .ok reportsWithEarlierPage := by
    decide +kernel
  have missed : PagesMissInputs configurationWithEarlierPage worldWithEarlierPage
      reportsWithEarlierPage
      (outcome (run configurationWithEarlierPage) worldWithEarlierPage).2.files := by
    have apart : ∀ report ∈ reportsWithEarlierPage, ∀ input ∈ configurationWithEarlierPage.inputs,
        worldWithEarlierPage.files.locate ((Path.ofText "/".toList).join input) ≠
          (outcome (run configurationWithEarlierPage) worldWithEarlierPage).2.files.locate
            report.output := by
      decide +kernel
    intro base isBase report isReport input isInput location leads there
    cases isBase
    exact apart report isReport input isInput (leads.trans there.symm)
  have agree :=
    (run_dryRun_listSections_agree configurationWithEarlierPage worldWithEarlierPage).2.2.2
  have isFull : { configurationWithEarlierPage with dryRun := false } =
      configurationWithEarlierPage := rfl
  simp only [isFull] at agree
  exact ⟨succeeded, missed, agree _ succeeded missed⟩

end Marginalia
