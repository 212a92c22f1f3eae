import Marginalia.Proofs.Run.Documents

/-!
# The course of a run

Documents are taken one after the other.  Each either gets its page, which may take new directories, or
stops the run, which may leave some of these directories behind.  The course of a run is then a number of
documents that got their pages and, unless that is all of them, one that did not.

The files at the turn of a document are those left by the documents before it, so that a page can be said
to be made from what its source held *at its turn*.  Whether that is what the source held at the start is
another matter; see `Marginalia.Proofs.Run.Sources`.
-/

namespace Marginalia

/-- A failure that a document can cause: a file that cannot be read or written, or a directory that
cannot be made. -/
def Failure.AtDocument : Failure → Prop
  | .cannotRead _ _ | .cannotCreateDirectory _ _ | .cannotWrite _ _ => True
  | _ => False

/-! ## One document -/

/-- Writing a page first makes directories above it, then puts the file.  If either fails, the directories
made so far are all that has changed. -/
theorem outcome_writePage (path : Path) (html : Text) (world : World) :
    ∃ made : FileSystem, world.files.Changes made (fun _ => False) (·.Above path) ∧
      ((∃ after, made.writeFile path (Utf8.encode html) = .ok after ∧
          outcome (writePage path html) world = (.ok (), { world with files := after })) ∨
        ∃ failure, failure.AtDocument ∧
          outcome (writePage path html) world = (.error failure, { world with files := made })) := by
  have write : ∀ later : World,
      (∃ after, later.files.writeFile path (Utf8.encode html) = .ok after ∧
        outcome (attempt (.cannotWrite path) (Workspace.writeFile path (Utf8.encode html))) later =
          (.ok (), { later with files := after })) ∨
      ∃ failure, failure.AtDocument ∧
        outcome (attempt (.cannotWrite path) (Workspace.writeFile path (Utf8.encode html))) later =
          (.error failure, later) := by
    intro later
    rw [outcome_writeFile]
    cases later.files.writeFile path (Utf8.encode html) with
    | ok after => exact Or.inl ⟨after, rfl, rfl⟩
    | error fault => exact Or.inr ⟨.cannotWrite path fault, trivial, rfl⟩
  unfold writePage
  cases isParent : path.parent? with
  | none => exact ⟨world.files, .refl _, write world⟩
  | some parent =>
    have changes := FileSystem.makeDirectoriesWithin_changes (parent.bytes.length + 1) world.files
      parent (FileSystem.withoutTrailing_parent isParent) (fun _ => False)
    refine ⟨(world.files.makeDirectories parent).2, changes.mono (fun _ => id) ?_, ?_⟩
    · rintro above (rfl | higher)
      · exact .parent isParent
      · exact .further isParent higher
    · simp only [outcome_bind, outcome_makeDirectories]
      cases (world.files.makeDirectories parent).1 with
      | ok _ => exact write { world with files := (world.files.makeDirectories parent).2 }
      | error fault =>
        exact Or.inr ⟨.cannotCreateDirectory parent fault, trivial, rfl⟩

section Documents

variable (configuration : Configuration) (prologue : Prologue) (root : Path)
  (documents : List Document)

/-- The page of a document whose source holds the given bytes. -/
def pageText (document : Document) (content : Bytes) : Text :=
  (document.toPage configuration documents (document.sections prologue content)).html

/-- The report on a document whose source holds the given bytes. -/
def pageReport (document : Document) (content : Bytes) : PageReport where
  input := document.relative
  output := root.join document.page
  sections := (document.sections prologue content).length
  written := !configuration.dryRun

/-- A document gets its page, made from the bytes that its source holds. -/
structure Publishes (document : Document) (content : Bytes) (before after : FileSystem) : Prop where
  read : before.readFile document.source = .ok content
  changes : before.Changes after (· = root.join document.page) (·.Above (root.join document.page))
  page : ∃ location, after.locate (root.join document.page) = .ok location ∧
    after.get? location =
      some (.file (Utf8.encode (pageText configuration prologue documents document content)))

variable {configuration}

/-- With its source at hand, a document comes down to writing its page, between two entries of the log. -/
theorem outcome_documentOne_of_read (writes : configuration.dryRun = false) {document : Document}
    {world : World} {content : Bytes} (read : world.files.readFile document.source = .ok content) :
    ∃ opening closing : LogEntry,
      outcome (documentOne configuration prologue root documents document) world =
        match outcome (writePage (root.join document.page)
            (pageText configuration prologue documents document content))
            { world with logged := opening :: world.logged } with
        | (.ok _, later) =>
          (.ok (pageReport configuration prologue root document content),
            { later with logged := closing :: later.logged })
        | (.error failure, later) => (.error failure, later) := by
  refine ⟨⟨.info, "Generating documentation: ".toList ++ document.label⟩,
    ⟨.debug, document.label ++ ": ".toList ++
      Nat.toDigits 10 (document.sections prologue content).length ++ " sections -> ".toList ++
      (root.join document.page).display⟩, ?_⟩
  unfold documentOne readSections pageText
  simp only [outcome_bind, outcome_report, outcome_readFile, read, writes, mapError_ok, outcome_pure,
    Bool.not_false, if_true]
  split
  · rename_i left
    rw [left]
    simp [pageReport, writes]
  · rename_i left
    rw [left]

/-- A document gets its page and is reported, or it stops the run and leaves no more than directories. -/
theorem outcome_documentOne (writes : configuration.dryRun = false) (document : Document)
    (world : World) :
    (∃ content later,
        outcome (documentOne configuration prologue root documents document) world =
          (.ok (pageReport configuration prologue root document content), later) ∧
        Publishes configuration prologue root documents document content world.files later.files) ∨
      ∃ failure later,
        outcome (documentOne configuration prologue root documents document) world =
          (.error failure, later) ∧
        failure.AtDocument ∧
        world.files.Changes later.files (fun _ => False) (·.Above (root.join document.page)) := by
  cases read : world.files.readFile document.source with
  | error fault =>
    unfold documentOne readSections
    simp only [outcome_bind, outcome_report, outcome_readFile, read]
    exact Or.inr ⟨.cannotRead document.source fault, _, rfl, trivial, .refl _⟩
  | ok content =>
    rcases outcome_documentOne_of_read prologue root documents writes read with
      ⟨opening, closing, turn⟩
    rcases outcome_writePage (root.join document.page)
        (pageText configuration prologue documents document content)
        { world with logged := opening :: world.logged } with
      ⟨made, changes, ⟨after, written, done⟩ | ⟨failure, atDocument, stopped⟩⟩
    · rw [done] at turn
      refine Or.inl ⟨content, _, turn, read, ?_, ?_⟩
      · exact (changes.mono (fun _ => False.elim) (fun _ => id)).trans
          (FileSystem.writeFile_changes written _)
      · rcases FileSystem.writeFile_spec written with ⟨location, _, there, leads, _⟩
        exact ⟨location, leads, there⟩
    · rw [stopped] at turn
      exact Or.inr ⟨failure, _, turn, atDocument, changes⟩

/-! ## All documents -/

theorem outcome_documentAll_cons (document : Document) (rest : List Document) (world : World) :
    outcome (documentAll configuration prologue root documents (document :: rest)) world =
      match outcome (documentOne configuration prologue root documents document) world with
      | (.ok first, later) =>
        ((outcome (documentAll configuration prologue root documents rest) later).1.map (first :: ·),
          (outcome (documentAll configuration prologue root documents rest) later).2)
      | (.error failure, later) => (.error failure, later) := by
  rw [documentAll, outcome_bind]
  cases outcome (documentOne configuration prologue root documents document) world with
  | mk result later =>
    cases result with
    | error failure => rfl
    | ok first =>
      simp only [outcome_bind]
      cases outcome (documentAll configuration prologue root documents rest) later with
      | mk others last => cases others <;> rfl

variable (configuration) in
/-- The world at the turn of a document: what the documents before it have left. -/
def worldAtTurn (part : List Document) (world : World) (index : Nat) : World :=
  (outcome (documentAll configuration prologue root documents (part.take index)) world).2

theorem worldAtTurn_zero (part : List Document) (world : World) :
    worldAtTurn configuration prologue root documents part world 0 = world := rfl

/-- When a document is done, the turns of the others count from there. -/
theorem worldAtTurn_succ {document : Document} {rest : List Document} {world middle : World}
    {first : PageReport}
    (turn : outcome (documentOne configuration prologue root documents document) world =
      (.ok first, middle)) (index : Nat) :
    worldAtTurn configuration prologue root documents (document :: rest) world (index + 1) =
      worldAtTurn configuration prologue root documents rest middle index := by
  unfold worldAtTurn
  rw [List.take_succ_cons, outcome_documentAll_cons, turn]

variable (configuration) in
/-- The course of a run over documents, with the bytes of those that got their pages.  It ends when there
are no more documents, or at the first one that fails. -/
inductive Course :
    World → List Document → List Bytes → Except Failure (List PageReport) → World → Prop where
  | finished (world : World) : Course world [] [] (.ok []) world
  | stopped {world later : World} {document : Document} {failure : Failure} (rest : List Document)
      (atDocument : failure.AtDocument)
      (changes : world.files.Changes later.files (fun _ => False)
        (·.Above (root.join document.page))) :
      Course world (document :: rest) [] (.error failure) later
  | next {world middle later : World} {document : Document} {rest : List Document}
      {content : Bytes} {contents : List Bytes} {result : Except Failure (List PageReport)}
      (turn : outcome (documentOne configuration prologue root documents document) world =
        (.ok (pageReport configuration prologue root document content), middle))
      (publishes : Publishes configuration prologue root documents document content world.files
        middle.files)
      (further : Course middle rest contents result later) :
      Course world (document :: rest) (content :: contents)
        (result.map (pageReport configuration prologue root document content :: ·)) later

/-- Every run takes such a course. -/
theorem course_documentAll (writes : configuration.dryRun = false) (part : List Document)
    (world : World) :
    ∃ contents, Course configuration prologue root documents world part contents
      (outcome (documentAll configuration prologue root documents part) world).1
      (outcome (documentAll configuration prologue root documents part) world).2 := by
  induction part generalizing world with
  | nil => exact ⟨[], .finished world⟩
  | cons document rest ih =>
    rw [outcome_documentAll_cons]
    rcases outcome_documentOne prologue root documents writes document world with
      ⟨content, middle, turn, publishes⟩ | ⟨failure, later, turn, atDocument, changes⟩
    · rcases ih middle with ⟨contents, further⟩
      rw [turn]
      exact ⟨content :: contents, .next turn publishes further⟩
    · rw [turn]
      exact ⟨[], .stopped rest atDocument changes⟩

/-! ## What a course leaves -/

/-- The path of the page of one of some documents. -/
def PageOf (part : List Document) (path : Path) : Prop :=
  ∃ document ∈ part, path = root.join document.page

/-- A path above the page of one of some documents. -/
def AbovePageOf (part : List Document) (path : Path) : Prop :=
  ∃ document ∈ part, path.Above (root.join document.page)

theorem changes_of_subset {before after : FileSystem} {written made written' made' : List Document}
    (changes : before.Changes after (PageOf root written) (AbovePageOf root made))
    (moreWritten : written ⊆ written') (moreMade : made ⊆ made') :
    before.Changes after (PageOf root written') (AbovePageOf root made') := by
  refine changes.mono ?_ ?_
  · rintro path ⟨document, member, isPage⟩
    exact ⟨document, moreWritten member, isPage⟩
  · rintro path ⟨document, member, above⟩
    exact ⟨document, moreMade member, above⟩

namespace Course

variable {prologue root documents} {world later : World} {part : List Document}
  {contents : List Bytes} {result : Except Failure (List PageReport)}
  (course : Course configuration prologue root documents world part contents result later)

include course

/-- A course that reaches the end reports on every document, and any other ends with a failure. -/
theorem result_eq :
    (contents.length = part.length ∧
        result = .ok (part.zipWith (pageReport configuration prologue root) contents)) ∨
      (contents.length < part.length ∧ ∃ failure, result = .error failure ∧ failure.AtDocument) := by
  induction course with
  | finished world => exact Or.inl ⟨rfl, rfl⟩
  | @stopped _ _ _ failure rest atDocument changes =>
    exact Or.inr ⟨Nat.zero_lt_succ _, failure, rfl, atDocument⟩
  | next turn publishes further ih =>
    rcases ih with ⟨all, rfl⟩ | ⟨short, failure, rfl, atDocument⟩
    · exact Or.inl ⟨congrArg (· + 1) all, rfl⟩
    · exact Or.inr ⟨Nat.succ_lt_succ short, failure, rfl, atDocument⟩

theorem length_le :
    contents.length ≤ part.length := by
  rcases course.result_eq with ⟨all, _⟩ | ⟨short, _⟩
  · exact Nat.le_of_eq all
  · exact Nat.le_of_lt short

/-- A run succeeds exactly when all pages are made. -/
theorem ok_iff :
    (∃ reports, result = .ok reports) ↔ contents.length = part.length := by
  rcases course.result_eq with ⟨all, succeeded⟩ | ⟨short, failure, failed, _⟩
  · exact ⟨fun _ => all, fun _ => ⟨_, succeeded⟩⟩
  · constructor
    · rintro ⟨reports, succeeded⟩
      cases succeeded.symm.trans failed
    · intro all
      exact absurd all (Nat.ne_of_lt short)

/-- Nothing has changed but the pages that were made, and directories above them and above the page that
was not. -/
theorem changes :
    world.files.Changes later.files (PageOf root (part.take contents.length))
      (AbovePageOf root (part.take (contents.length + 1))) := by
  induction course with
  | finished world => exact .refl _
  | stopped rest atDocument changes =>
    refine changes.mono (fun _ => False.elim) fun path above => ?_
    exact ⟨_, List.mem_cons_self, above⟩
  | @next _ _ _ document _ _ _ _ turn publishes further ih =>
    refine .trans (publishes.changes.mono ?_ ?_) (changes_of_subset root ih ?_ ?_)
    · rintro path rfl
      exact ⟨document, by simp, rfl⟩
    · exact fun path above => ⟨document, by simp, above⟩
    · exact List.subset_cons_of_subset _ (fun _ => id)
    · exact List.subset_cons_of_subset _ (fun _ => id)

/-- At its turn a document gets its page, and only pages of later documents are written after that. -/
theorem turn {index : Nat} {content : Bytes} (reached : contents[index]? = some content) :
    ∃ document, part[index]? = some document ∧
      Publishes configuration prologue root documents document content
        (worldAtTurn configuration prologue root documents part world index).files
        (worldAtTurn configuration prologue root documents part world (index + 1)).files ∧
      (worldAtTurn configuration prologue root documents part world (index + 1)).files.Changes
        later.files (PageOf root (part.drop (index + 1))) (AbovePageOf root (part.drop (index + 1))) := by
  induction course generalizing index with
  | finished world => simp at reached
  | stopped rest atDocument changes => simp at reached
  | @next _ _ _ document rest _ _ _ turn publishes further ih =>
    cases index with
    | zero =>
      cases reached
      rw [worldAtTurn_succ prologue root documents turn, worldAtTurn_zero, worldAtTurn_zero]
      refine ⟨document, rfl, publishes, changes_of_subset root further.changes ?_ ?_⟩
      · exact List.take_subset _ _
      · exact List.take_subset _ _
    | succ index =>
      rw [worldAtTurn_succ prologue root documents turn, worldAtTurn_succ prologue root documents turn]
      exact ih reached

theorem read {index : Nat} {document : Document} {content : Bytes}
    (isDocument : part[index]? = some document) (reached : contents[index]? = some content) :
    (worldAtTurn configuration prologue root documents part world index).files.readFile
      document.source = .ok content := by
  rcases course.turn reached with ⟨_, isDocument', publishes, _⟩
  cases isDocument.symm.trans isDocument'
  exact publishes.read

/-- After the documents that got their pages, no file is written. -/
theorem stop :
    (worldAtTurn configuration prologue root documents part world contents.length).files.Changes
      later.files (fun _ => False) (AbovePageOf root part) := by
  induction course with
  | finished world => exact .refl _
  | stopped rest atDocument changes =>
    exact changes.mono (fun _ => id) fun path above => ⟨_, List.mem_cons_self, above⟩
  | next turn publishes further ih =>
    rw [List.length_cons, worldAtTurn_succ prologue root documents turn]
    refine ih.mono (fun _ => id) ?_
    rintro path ⟨document, member, above⟩
    exact ⟨document, List.mem_cons_of_mem _ member, above⟩

end Course

/-- Up to the turn of a document, only pages of the documents before it are written. -/
theorem changes_worldAtTurn (writes : configuration.dryRun = false) (part : List Document)
    (world : World) (index : Nat) :
    world.files.Changes (worldAtTurn configuration prologue root documents part world index).files
      (PageOf root (part.take index)) (AbovePageOf root (part.take index)) := by
  rcases course_documentAll prologue root documents writes (part.take index) world with
    ⟨contents, course⟩
  exact changes_of_subset root course.changes (List.take_subset _ _) (List.take_subset _ _)

end Documents

/-! ## Whole runs -/

/-- A run fails before it comes to documents and leaves all files alone, or it takes a course over the
documents that it has found. -/
theorem run_cases {configuration : Configuration} (writes : configuration.dryRun = false)
    (world : World) :
    (∃ failure, (outcome (run configuration) world).1 = .error failure ∧
        failure.BeforeDocuments configuration world ∧
        (outcome (run configuration) world).2.files = world.files) ∨
      ∃ base documents prologue start contents,
        outcome (prepare configuration) world = (.ok (base, documents), start) ∧
        start.files = world.files ∧ configuration.prologue.prologue = .ok prologue ∧
        Course configuration prologue (base.join configuration.output) documents start documents
          contents (outcome (run configuration) world).1 (outcome (run configuration) world).2 := by
  have kept := keepsFiles_prepare configuration world
  unfold run
  rw [outcome_bind]
  cases prepared : outcome (prepare configuration) world with
  | mk result start =>
    rw [prepared] at kept
    cases result with
    | error failure =>
      exact Or.inl ⟨failure, rfl, prepare_error (congrArg Prod.fst prepared), kept⟩
    | ok found =>
      unfold chosenPrologue
      cases chosen : configuration.prologue.prologue with
      | error cause => exact Or.inl ⟨.badPattern cause, rfl, trivial, kept⟩
      | ok prologue =>
        rcases course_documentAll prologue (found.1.join configuration.output) found.2 writes
          found.2 start with ⟨contents, course⟩
        exact Or.inr ⟨found.1, found.2, prologue, start, contents, rfl, kept, rfl, course⟩

/-- Nothing is ever removed, whatever comes of the run. -/
theorem grows_run (configuration : Configuration) (world : World) :
    world.files.Grows (outcome (run configuration) world).2.files := by
  cases writes : configuration.dryRun with
  | true =>
    rw [keepsFiles_run writes world]
    exact .refl _
  | false =>
    rcases run_cases writes world with ⟨_, _, _, kept⟩ | ⟨_, _, _, start, _, _, kept, _, course⟩
    · rw [kept]
      exact .refl _
    · rw [← kept]
      exact course.changes.grows

end Marginalia
