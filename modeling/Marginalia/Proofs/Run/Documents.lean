import Marginalia.Proofs.Run.Outcome

/-!
# The documents that are found

What a run may rely on once its documents have been found: every input leads somewhere, each document
comes from an input and has the page of its own relative path, and no two documents have the same page.
Pages are compared as lists of names, which for page paths is the same as comparing their components.

When documents cannot be found, the failure says why.  The failures of this kind are told apart from those
of reading and writing, although an input that does not resolve is reported like a file that cannot be read.
-/

namespace Marginalia

/-- One of the inputs does not resolve, or the directory that they are relative to does not. -/
def Unresolved (files : FileSystem) (base : Path) (inputs : List Path) (path : Path) (fault : Fault) :
    Prop :=
  (path ∈ inputs ∧ files.locate (base.join path) = .error fault) ∨
    (path = base ∧ files.locate base = .error fault)

theorem Unresolved.cons {files : FileSystem} {base path : Path} {inputs : List Path} {fault : Fault}
    (unresolved : Unresolved files base inputs path fault) (input : Path) :
    Unresolved files base (input :: inputs) path fault := by
  rcases unresolved with ⟨member, unresolved⟩ | ofBase
  · exact Or.inl ⟨List.mem_cons_of_mem input member, unresolved⟩
  · exact Or.inr ofBase

/-- A failure that a run can meet before it comes to documents.  A path that cannot be read is one of these
if it does not even resolve. -/
def Failure.BeforeDocuments (configuration : Configuration) (world : World) : Failure → Prop
  | .noInputs | .noWorkingDirectory _ | .collision _ _ _ | .badPattern _ => True
  | .cannotRead path fault =>
    ∃ base, (outcome (baseDirectory configuration.base) world).1 = .ok base ∧
      Unresolved world.files base configuration.inputs path fault
  | .cannotCreateDirectory _ _ | .cannotWrite _ _ | .unlistablePath => False

/-! ## One input -/

/-- An input and the base directory are both resolved, in this order. -/
theorem outcome_normalizeInput (base input : Path) (world : World) :
    (∃ fault, world.files.locate (base.join input) = .error fault ∧
        outcome (normalizeInput base input) world = (.error (.cannotRead input fault), world)) ∨
      (∃ fault, world.files.locate base = .error fault ∧
        outcome (normalizeInput base input) world = (.error (.cannotRead base fault), world)) ∨
      ∃ location directory relative, world.files.locate (base.join input) = .ok location ∧
        world.files.locate base = .ok directory ∧
        outcome (normalizeInput base input) world = (.ok relative, world) := by
  unfold normalizeInput
  simp only [outcome_bind, outcome_canonicalize, FileSystem.canonicalize]
  cases target : world.files.locate (base.join input) with
  | error fault => exact Or.inl ⟨fault, rfl, rfl⟩
  | ok location =>
    simp only [Except.map, mapError_ok]
    cases world.files.locate base with
    | error fault => exact Or.inr (Or.inl ⟨fault, rfl, rfl⟩)
    | ok directory => exact Or.inr (Or.inr ⟨location, directory, _, rfl, rfl, rfl⟩)

/-- A normalised input leads somewhere, and so does the base directory. -/
theorem normalizeInput_ok {base input relative : Path} {world later : World}
    (done : outcome (normalizeInput base input) world = (.ok relative, later)) :
    later = world ∧ (∃ location, world.files.locate (base.join input) = .ok location) ∧
      ∃ directory, world.files.locate base = .ok directory := by
  rcases outcome_normalizeInput base input world with ⟨_, _, failed⟩ | ⟨_, _, failed⟩ |
    ⟨location, directory, _, located, locatedBase, normalized⟩
  · rw [failed] at done
    cases done
  · rw [failed] at done
    cases done
  · rw [normalized] at done
    cases done
    exact ⟨rfl, ⟨location, located⟩, ⟨directory, locatedBase⟩⟩

/-! ## All inputs -/

/-- What is known of documents that were found among inputs. -/
structure Collected (base : Path) (inputs : List Path) (documents : List Document) : Prop where
  source : ∀ document ∈ documents, ∃ input ∈ inputs, document.source = base.join input
  page : ∀ document ∈ documents, document.page = document.relative.page
  distinct : documents.Pairwise fun first second =>
    first.relative.namesOfPage ≠ second.relative.namesOfPage

namespace Collected

variable {base : Path} {inputs : List Path} {found : List Document}

theorem nil (base : Path) (inputs : List Path) : Collected base inputs [] where
  source := by simp
  page := by simp
  distinct := .nil

/-- A document may be added when no earlier one has its page. -/
theorem concat (collected : Collected base inputs found) {input relative : Path}
    (listed : input ∈ inputs)
    (free : ∀ other ∈ found, other.page.components ≠ relative.page.components) :
    Collected base inputs (found ++ [.make (base.join input) relative]) where
  source := by
    intro document member
    rcases List.mem_append.mp member with earlier | last
    · exact collected.source document earlier
    · rw [List.mem_singleton.mp last]
      exact ⟨input, listed, rfl⟩
  page := by
    intro document member
    rcases List.mem_append.mp member with earlier | last
    · exact collected.page document earlier
    · rw [List.mem_singleton.mp last]
      rfl
  distinct := by
    rw [List.pairwise_append]
    refine ⟨collected.distinct, List.pairwise_singleton _ _, ?_⟩
    intro other earlier document last same
    rw [List.mem_singleton.mp last] at same
    apply free other earlier
    rw [collected.page other earlier, Path.components_page, Path.components_page, same]
    rfl

/-- The pages of documents before a point of the list are not those of documents after it. -/
theorem apart {documents : List Document} (collected : Collected base inputs documents) (count : Nat)
    {first second : Document} (early : first ∈ documents.take count)
    (late : second ∈ documents.drop count) :
    first.relative.namesOfPage ≠ second.relative.namesOfPage := by
  have distinct := collected.distinct
  rw [← List.take_append_drop count documents, List.pairwise_append] at distinct
  exact distinct.2.2 first early second late

end Collected

/-- The documents are found with distinct pages, and only if every input and the base directory
resolve. -/
theorem collectFrom_ok {base : Path} {inputs rest : List Path} {found documents : List Document}
    {files : FileSystem} {world later : World}
    (done : outcome (collectFrom base found rest) world = (.ok documents, later))
    (here : world.files = files) (listed : ∀ input ∈ rest, input ∈ inputs)
    (collected : Collected base inputs found) :
    Collected base inputs documents ∧
      ∀ input ∈ rest, (∃ location, files.locate (base.join input) = .ok location) ∧
        ∃ directory, files.locate base = .ok directory := by
  induction rest generalizing found world with
  | nil =>
    cases done
    exact ⟨collected, by simp⟩
  | cons input rest ih =>
    rcases List.forall_mem_cons.mp listed with ⟨inputListed, restListed⟩
    rcases outcome_bind_ok done with ⟨relative, middle, first, further⟩
    rcases normalizeInput_ok first with ⟨rfl, resolved⟩
    rw [here] at resolved
    split at further
    · rcases outcome_bind_ok further with ⟨_, logged, entry, skipped⟩
      cases entry
      rcases ih skipped here restListed collected with ⟨ends, others⟩
      exact ⟨ends, List.forall_mem_cons.mpr ⟨resolved, others⟩⟩
    · simp only at further
      split at further
      · cases further
      · rename_i absent
        have free : ∀ other ∈ found, other.page.components ≠ relative.page.components := by
          intro other earlier same
          have differs := List.find?_eq_none.mp absent other earlier
          exact differs (by simpa [Document.make] using same)
        rcases ih further here restListed (collected.concat inputListed free) with ⟨ends, others⟩
        exact ⟨ends, List.forall_mem_cons.mpr ⟨resolved, others⟩⟩

/-- Finding documents fails at an input that does not resolve, or when two pages collide. -/
theorem collectFrom_error {base : Path} {inputs : List Path} {found : List Document}
    {files : FileSystem} {world : World} {failure : Failure}
    (failed : (outcome (collectFrom base found inputs) world).1 = .error failure)
    (here : world.files = files) :
    (∃ first second page, failure = .collision first second page) ∨
      ∃ path fault, failure = .cannotRead path fault ∧ Unresolved files base inputs path fault := by
  induction inputs generalizing found world with
  | nil => cases failed
  | cons input rest ih =>
    have further : ∀ {found : List Document} {later : World},
        (outcome (collectFrom base found rest) later).1 = .error failure → later.files = files →
        (∃ first second page, failure = .collision first second page) ∨
          ∃ path fault, failure = .cannotRead path fault ∧
            Unresolved files base (input :: rest) path fault := by
      intro found later failed here
      rcases ih failed here with collision | ⟨path, fault, rfl, unresolved⟩
      · exact Or.inl collision
      · exact Or.inr ⟨path, fault, rfl, unresolved.cons input⟩
    rw [collectFrom, outcome_bind] at failed
    rcases outcome_normalizeInput base input world with ⟨fault, unresolved, stopped⟩ |
      ⟨fault, unresolved, stopped⟩ | ⟨_, _, relative, _, _, normalized⟩
    · rw [stopped] at failed
      cases failed
      rw [here] at unresolved
      exact Or.inr ⟨input, fault, rfl, Or.inl ⟨List.mem_cons_self, unresolved⟩⟩
    · rw [stopped] at failed
      cases failed
      rw [here] at unresolved
      exact Or.inr ⟨base, fault, rfl, Or.inr ⟨rfl, unresolved⟩⟩
    · rw [normalized] at failed
      simp only at failed
      split at failed
      · rw [outcome_bind, outcome_report] at failed
        exact further failed here
      · split at failed
        · cases failed
          exact Or.inl ⟨_, _, _, rfl⟩
        · exact further failed here

/-! ## Preparation -/

theorem outcome_prepare {configuration : Configuration} {world : World} {input : Path}
    {rest : List Path} (inputs : configuration.inputs = input :: rest) :
    outcome (prepare configuration) world =
      match outcome (baseDirectory configuration.base) world with
      | (.ok base, later) =>
        ((outcome (collectFrom base [] configuration.inputs) later).1.map (base, ·),
          (outcome (collectFrom base [] configuration.inputs) later).2)
      | (.error failure, later) => (.error failure, later) := by
  unfold prepare collectDocuments
  simp only [inputs, List.isEmpty_cons, Bool.false_eq_true, if_false]
  rw [outcome_bind]
  cases outcome (baseDirectory configuration.base) world with
  | mk result later =>
    cases result with
    | error failure => rfl
    | ok base =>
      simp only [outcome_bind]
      cases outcome (collectFrom base [] (input :: rest)) later with
      | mk documents last => cases documents <;> rfl

theorem prepare_ok {configuration : Configuration} {base : Path} {documents : List Document}
    {world later : World}
    (done : outcome (prepare configuration) world = (.ok (base, documents), later)) :
    (outcome (baseDirectory configuration.base) world).1 = .ok base ∧
      Collected base configuration.inputs documents ∧
      (∀ input ∈ configuration.inputs,
        ∃ location, world.files.locate (base.join input) = .ok location) ∧
      ∃ directory, world.files.locate base = .ok directory := by
  cases inputs : configuration.inputs with
  | nil =>
    unfold prepare at done
    rw [inputs] at done
    cases done
  | cons input rest =>
    have kept := keepsFiles_baseDirectory configuration.base world
    rw [outcome_prepare inputs] at done
    split at done
    · rename_i directory middle chosen
      rw [chosen] at kept
      cases collected : outcome (collectFrom directory [] configuration.inputs) middle with
      | mk result last =>
        rw [collected] at done
        cases result with
        | error failure => cases done
        | ok found =>
          cases done
          rcases collectFrom_ok collected kept (fun _ => id) (.nil _ _) with ⟨ends, resolved⟩
          rw [inputs] at ends resolved
          exact ⟨by rw [chosen], ends, fun path member => (resolved path member).1,
            (resolved input List.mem_cons_self).2⟩
    · cases done

theorem baseDirectory_error {base : Option Path} {world : World} {failure : Failure}
    (failed : (outcome (baseDirectory base) world).1 = .error failure) :
    ∃ fault, failure = .noWorkingDirectory fault := by
  cases base with
  | some path => cases failed
  | none => exact attempt_error failed

/-- A run that cannot be prepared has a failure of its own kind. -/
theorem prepare_error {configuration : Configuration} {world : World} {failure : Failure}
    (failed : (outcome (prepare configuration) world).1 = .error failure) :
    failure.BeforeDocuments configuration world := by
  cases inputs : configuration.inputs with
  | nil =>
    unfold prepare at failed
    rw [inputs] at failed
    cases failed
    trivial
  | cons input rest =>
    have kept := keepsFiles_baseDirectory configuration.base world
    rw [outcome_prepare inputs] at failed
    split at failed
    · rename_i directory middle chosen
      rw [chosen] at kept
      cases collected : (outcome (collectFrom directory [] configuration.inputs) middle).1 with
      | ok found =>
        rw [collected] at failed
        cases failed
      | error failure =>
        rw [collected] at failed
        cases failed
        rcases collectFrom_error collected kept with ⟨first, second, page, rfl⟩ |
          ⟨path, fault, rfl, unresolved⟩
        · trivial
        · exact ⟨directory, by rw [chosen], unresolved⟩
    · rename_i cause middle chosen
      cases failed
      rcases baseDirectory_error (congrArg Prod.fst chosen) with ⟨fault, rfl⟩
      trivial

end Marginalia
