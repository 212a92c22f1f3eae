import Marginalia.Proofs.Files.Changes
import Marginalia.Run.Basic

/-!
# Outcomes of actions

A run is an action of a workspace.  In the workspace in memory an action is a function: it takes a world
and gives a result, which may be a failure, and the world that it leaves behind.  `outcome` is that
function, and the equations below say what it is for each way of building actions, so that later proofs
need not look into the monads.

Most of a run only looks at files.  `KeepsFiles` collects the actions that do, among them everything
that happens before the first document is read.
-/

namespace Marginalia

/-- What an action gives in a world, and the world that it leaves. -/
def outcome {α : Type} (action : ExceptT Failure (StateM World) α) (world : World) :
    Except Failure α × World :=
  action.run.run world

section Equations

variable {α β : Type} (world : World)

@[simp] theorem outcome_pure (value : α) :
    outcome (pure value) world = (.ok value, world) := rfl

@[simp] theorem outcome_throw (failure : Failure) :
    outcome (throw failure : ExceptT Failure (StateM World) α) world = (.error failure, world) := rfl

/-- An action goes on where the one before it has stopped, unless that one has failed. -/
theorem outcome_bind (action : ExceptT Failure (StateM World) α)
    (next : α → ExceptT Failure (StateM World) β) :
    outcome (action >>= next) world =
      match outcome action world with
      | (.ok value, later) => outcome (next value) later
      | (.error failure, later) => (.error failure, later) := by
  change (match action.run.run world with
    | (result, later) => (ExceptT.bindCont next result).run later) = _
  unfold outcome
  cases left : action.run.run world with
  | mk result later => cases result <;> rfl

@[simp] theorem outcome_report (level : Level) (message : Text) :
    outcome (report level message) world =
      (.ok (), { world with logged := ⟨level, message⟩ :: world.logged }) := rfl

/-- An attempt makes the fault of an operation a failure and leaves the world to the operation. -/
theorem outcome_attempt (failure : Fault → Failure) (operation : StateM World (Except Fault α)) :
    outcome (attempt failure operation) world =
      ((operation.run world).1.mapError failure, (operation.run world).2) := by
  unfold outcome attempt
  rw [ExceptT.run_mk, StateT.run_bind]
  rcases operation.run world with ⟨result, later⟩
  cases result <;> rfl

/-- What an operation gives without a fault is kept. -/
theorem mapError_ok (failure : Fault → Failure) (value : α) :
    (Except.ok value).mapError failure = .ok value := rfl

theorem attempt_error {failure : Fault → Failure} {operation : StateM World (Except Fault α)}
    {world : World} {stopped : Failure}
    (failed : (outcome (attempt failure operation) world).1 = .error stopped) :
    ∃ fault, stopped = failure fault := by
  rw [outcome_attempt] at failed
  cases result : (operation.run world).1 with
  | error fault =>
    rw [result] at failed
    cases failed
    exact ⟨fault, rfl⟩
  | ok value =>
    rw [result] at failed
    cases failed

theorem outcome_readFile (failure : Fault → Failure) (path : Path) :
    outcome (attempt failure (Workspace.readFile path)) world =
      ((world.files.readFile path).mapError failure, world) :=
  outcome_attempt world failure (Workspace.readFile path)

theorem outcome_canonicalize (failure : Fault → Failure) (path : Path) :
    outcome (attempt failure (Workspace.canonicalize path)) world =
      ((world.files.canonicalize path).mapError failure, world) :=
  outcome_attempt world failure (Workspace.canonicalize path)

theorem outcome_makeDirectories (failure : Fault → Failure) (path : Path) :
    outcome (attempt failure (Workspace.makeDirectories path)) world =
      ((world.files.makeDirectories path).1.mapError failure,
        { world with files := (world.files.makeDirectories path).2 }) :=
  outcome_attempt world failure (Workspace.makeDirectories path)

theorem outcome_writeFile (failure : Fault → Failure) (path : Path) (content : Bytes) :
    outcome (attempt failure (Workspace.writeFile path content)) world =
      match world.files.writeFile path content with
      | .ok files => (.ok (), { world with files := files })
      | .error fault => (.error (failure fault), world) := by
  have operation : (Workspace.writeFile path content : StateM World (Except Fault Unit)).run world =
      match world.files.writeFile path content with
      | .ok files => (.ok (), { world with files := files })
      | .error fault => (.error fault, world) := rfl
  rw [outcome_attempt, operation]
  cases world.files.writeFile path content <;> rfl

end Equations

/-- A result of two actions in a row comes from a result of the first. -/
theorem outcome_bind_ok {α β : Type} {action : ExceptT Failure (StateM World) α}
    {next : α → ExceptT Failure (StateM World) β} {world final : World} {value : β}
    (done : outcome (action >>= next) world = (.ok value, final)) :
    ∃ first later, outcome action world = (.ok first, later) ∧
      outcome (next first) later = (.ok value, final) := by
  rw [outcome_bind] at done
  split at done
  · rename_i first later left
    exact ⟨first, later, left, done⟩
  · cases done

/-! ## Actions that keep files -/

/-- The action changes no file, whatever comes of it. -/
def KeepsFiles {α : Type} (action : ExceptT Failure (StateM World) α) : Prop :=
  ∀ world, (outcome action world).2.files = world.files

namespace KeepsFiles

variable {α β : Type}

theorem pure (value : α) : KeepsFiles (Pure.pure value) := fun _ => rfl

theorem throw (failure : Failure) : KeepsFiles (MonadExcept.throw failure : ExceptT _ _ α) := by
  intro world
  rw [outcome_throw]

theorem bind {action : ExceptT Failure (StateM World) α}
    {next : α → ExceptT Failure (StateM World) β} (first : KeepsFiles action)
    (second : ∀ value, KeepsFiles (next value)) : KeepsFiles (action >>= next) := by
  intro world
  have kept := first world
  rw [outcome_bind]
  split
  · rename_i value later left
    rw [left] at kept
    rw [second value later, kept]
  · rename_i failure later left
    rw [left] at kept
    exact kept

theorem report (level : Level) (message : Text) : KeepsFiles (Marginalia.report level message) :=
  fun _ => rfl

theorem readFile (failure : Fault → Failure) (path : Path) :
    KeepsFiles (attempt failure (Workspace.readFile path)) := by
  intro world
  rw [outcome_readFile]

theorem canonicalize (failure : Fault → Failure) (path : Path) :
    KeepsFiles (attempt failure (Workspace.canonicalize path)) := by
  intro world
  rw [outcome_canonicalize]

end KeepsFiles

theorem keepsFiles_normalizeInput (base input : Path) : KeepsFiles (normalizeInput base input) :=
  .bind (.canonicalize _ _) fun _ => .bind (.canonicalize _ _) fun _ => .pure _

theorem keepsFiles_collectFrom (base : Path) (found : List Document) (inputs : List Path) :
    KeepsFiles (collectFrom base found inputs) := by
  induction inputs generalizing found with
  | nil => exact .pure found
  | cons input rest ih =>
    refine .bind (keepsFiles_normalizeInput base input) fun relative => ?_
    split
    · exact .bind (.report _ _) fun _ => ih found
    · simp only
      split
      · exact .throw _
      · exact ih _

theorem keepsFiles_baseDirectory (base : Option Path) : KeepsFiles (baseDirectory base) := by
  cases base with
  | some path => exact .pure path
  | none =>
    intro world
    change (outcome (attempt Failure.noWorkingDirectory Workspace.workingDirectory) world).2.files = _
    rw [outcome_attempt]
    rfl

/-- Nothing is written while documents are being found. -/
theorem keepsFiles_prepare (configuration : Configuration) : KeepsFiles (prepare configuration) := by
  have found : KeepsFiles (do
      let base ← baseDirectory configuration.base
      let documents ← collectDocuments base configuration.inputs
      pure (base, documents)) :=
    .bind (keepsFiles_baseDirectory _) fun _ => .bind (keepsFiles_collectFrom _ _ _) fun _ => .pure _
  unfold prepare
  split
  · exact .bind (.throw _) fun _ => found
  · exact found

theorem keepsFiles_chosenPrologue (configuration : Configuration) :
    KeepsFiles (chosenPrologue configuration) := by
  unfold chosenPrologue
  split
  · exact .pure _
  · exact .throw _

theorem keepsFiles_readSections (prologue : Prologue) (document : Document) :
    KeepsFiles (readSections prologue document) :=
  .bind (.readFile _ _) fun _ => .pure _

theorem keepsFiles_documentOne {configuration : Configuration} (dry : configuration.dryRun = true)
    (prologue : Prologue) (root : Path) (documents : List Document) (document : Document) :
    KeepsFiles (documentOne configuration prologue root documents document) := by
  unfold documentOne
  simp only [dry, Bool.not_true, Bool.false_eq_true, if_false]
  exact .bind (.report _ _) fun _ => .bind (keepsFiles_readSections _ _) fun _ =>
    .bind (.report _ _) fun _ => .pure _

/-- A dry run writes nothing. -/
theorem keepsFiles_run {configuration : Configuration} (dry : configuration.dryRun = true) :
    KeepsFiles (run configuration) := by
  have all : ∀ (prologue : Prologue) (root : Path) (documents part : List Document),
      KeepsFiles (documentAll configuration prologue root documents part) := by
    intro prologue root documents part
    induction part with
    | nil => exact .pure []
    | cons document rest ih =>
      exact .bind (keepsFiles_documentOne dry _ _ _ _) fun _ => .bind ih fun _ => .pure _
  exact .bind (keepsFiles_prepare _) fun _ => .bind (keepsFiles_chosenPrologue _) fun _ => all _ _ _ _

theorem keepsFiles_listSections (configuration : Configuration) :
    KeepsFiles (listSections configuration) := by
  have all : ∀ (prologue : Prologue) (part : List Document), KeepsFiles (listAll prologue part) := by
    intro prologue part
    induction part with
    | nil => exact .pure []
    | cons document rest ih =>
      exact .bind (keepsFiles_readSections _ _) fun _ => .bind ih fun _ => .pure _
  exact .bind (keepsFiles_prepare _) fun _ => .bind (keepsFiles_chosenPrologue _) fun _ => all _ _

end Marginalia
