import Marginalia.Proofs.Path.Names

/-!
# Walks as derivations

`FileSystem.walk` computes where a path leads.  `Walks` says the same as a relation: one rule for each
thing that a successful walk can do.  Facts about walks are proved by induction on derivations, so that
the tests and the error cases of the function are met once, in the proof that both agree.

The number counts the links that may still be followed.  It decreases at a link and nowhere else.
-/

namespace Marginalia

namespace FileSystem

/-- A walk from a place along steps ends at `place`. -/
inductive Walks (files : FileSystem) (follow : Bool) :
    Nat → Location → List Step → Place → Prop where
  | done (links : Nat) (location : Location) : Walks files follow links location [] (.occupied location)
  | stay {links : Nat} {location : Location} {rest : List Step} {place : Place}
      (directory : files.get? location = some .directory)
      (further : Walks files follow links location rest place) :
      Walks files follow links location (.stay :: rest) place
  | up {links : Nat} {location : Location} {rest : List Step} {place : Place}
      (directory : files.get? location = some .directory)
      (further : Walks files follow links location.dropLast rest place) :
      Walks files follow links location (.up :: rest) place
  | enter {links : Nat} {location : Location} {name : Bytes} {rest : List Step} {entry : Entry}
      {place : Place} (directory : files.get? location = some .directory)
      (short : name.length ≤ longestName) (there : files.get? (location ++ [name]) = some entry)
      (noLink : ∀ target, entry ≠ .link target)
      (further : Walks files follow links (location ++ [name]) rest place) :
      Walks files follow links location (.name name :: rest) place
  | vacant (links : Nat) {location : Location} {name : Bytes}
      (directory : files.get? location = some .directory)
      (short : name.length ≤ longestName) (absent : files.get? (location ++ [name]) = none) :
      Walks files follow links location [.name name] (.vacant (location ++ [name]))
  | link {links : Nat} {location : Location} {name : Bytes} {rest : List Step} {target : Path}
      {place : Place} (directory : files.get? location = some .directory)
      (short : name.length ≤ longestName)
      (there : files.get? (location ++ [name]) = some (.link target))
      (followed : rest ≠ [] ∨ follow = true)
      (further : Walks files follow links (if target.isAbsolute then [] else location)
        (target.steps ++ rest) place) :
      Walks files follow (links + 1) location (.name name :: rest) place
  | lastLink (links : Nat) {location : Location} {name : Bytes} {target : Path}
      (directory : files.get? location = some .directory)
      (short : name.length ≤ longestName)
      (there : files.get? (location ++ [name]) = some (.link target)) (notFollowed : follow = false) :
      Walks files follow links location [.name name] (.occupied (location ++ [name]))

variable {files : FileSystem} {follow : Bool}

/-! ## The relation and the function agree -/

/-- How a walk may go on after a link, as a relation: not at all once no link may be followed. -/
def Resumes (files : FileSystem) (follow : Bool) : Nat → Location → List Step → Place → Prop
  | 0, _, _, _ => False
  | links + 1, location, steps, place => Walks files follow links location steps place

private theorem walks_of_walkWith {links : Nat}
    {resume : Location → List Step → Except Fault Place}
    (resumed : ∀ location steps place, resume location steps = .ok place →
      Resumes files follow links location steps place)
    (location : Location) (steps : List Step) (place : Place)
    (reached : files.walkWith follow resume location steps = .ok place) :
    Walks files follow links location steps place := by
  induction steps generalizing location with
  | nil =>
    simp only [walkWith, Except.ok.injEq] at reached
    subst reached
    exact .done links location
  | cons step rest ih =>
    unfold walkWith at reached
    split at reached
    · rename_i directory
      cases step with
      | stay => exact .stay directory (ih location reached)
      | up => exact .up directory (ih location.dropLast reached)
      | name bytes =>
        simp only at reached
        split at reached
        · cases reached
        · rename_i notLong
          have short : bytes.length ≤ longestName := by omega
          split at reached
          · rename_i target there
            split at reached
            · rename_i stops
              simp only [Bool.and_eq_true, List.isEmpty_iff, Bool.not_eq_true'] at stops
              rcases stops with ⟨rfl, notFollowed⟩
              cases reached
              exact .lastLink links directory short there notFollowed
            · rename_i goes
              have further := resumed _ _ _ reached
              cases links with
              | zero => cases further
              | succ links =>
                refine .link directory short there ?_ further
                cases follow with
                | true => exact Or.inr rfl
                | false =>
                  refine Or.inl ?_
                  rintro rfl
                  exact goes rfl
          · rename_i entry notLink there
            exact .enter directory short there (fun target => notLink target) (ih _ reached)
          · rename_i absent
            split at reached
            · rename_i last
              rw [List.isEmpty_iff] at last
              subst last
              cases reached
              exact .vacant links directory short absent
            · cases reached
    · cases reached
    · cases reached

theorem walks_of_walk (links : Nat) (location : Location) (steps : List Step) (place : Place)
    (reached : files.walk follow links location steps = .ok place) :
    Walks files follow links location steps place := by
  induction links generalizing location steps place with
  | zero =>
    refine walks_of_walkWith ?_ location steps place reached
    intro _ _ _ stopped
    cases stopped
  | succ links ih => exact walks_of_walkWith ih location steps place reached

/-- The function from one step on, whatever number of links is left. -/
private theorem walk_cons (links : Nat) (location : Location) (step : Step) (rest : List Step)
    (directory : files.get? location = some .directory) :
    files.walk follow links location (step :: rest) =
      match step with
      | .stay => files.walk follow links location rest
      | .up => files.walk follow links location.dropLast rest
      | .name bytes =>
        if longestName < bytes.length then .error .nameTooLong
        else
          match files.get? (location ++ [bytes]) with
          | some (.link target) =>
            if rest.isEmpty && !follow then .ok (.occupied (location ++ [bytes]))
            else
              match links with
              | 0 => .error .tooManyLinks
              | links + 1 =>
                files.walk follow links (if target.isAbsolute then [] else location)
                  (target.steps ++ rest)
          | some _ => files.walk follow links (location ++ [bytes]) rest
          | none =>
            if rest.isEmpty then .ok (.vacant (location ++ [bytes])) else .error .notFound := by
  cases links <;> cases step <;> rewrite [walk, walkWith, directory] <;> rfl

theorem walk_of_walks {links : Nat} {location : Location} {steps : List Step} {place : Place}
    (walks : Walks files follow links location steps place) :
    files.walk follow links location steps = .ok place := by
  induction walks with
  | done links location => cases links <;> rfl
  | stay directory _ ih => rw [walk_cons _ _ _ _ directory, ih]
  | up directory _ ih => rw [walk_cons _ _ _ _ directory, ih]
  | @enter links location name rest entry place directory short there noLink _ ih =>
    rw [walk_cons _ _ _ _ directory]
    simp only [Nat.not_lt.mpr short, if_false, there]
    cases entry with
    | link target => exact absurd rfl (noLink target)
    | file content => exact ih
    | directory => exact ih
  | vacant links directory short absent =>
    rw [walk_cons _ _ _ _ directory]
    simp [Nat.not_lt.mpr short, absent]
  | @link links location name rest target place directory short there followed _ ih =>
    have goes : (rest.isEmpty && !follow) = false := by
      rcases followed with more | follows
      · cases rest with
        | nil => exact absurd rfl more
        | cons _ _ => rfl
      · simp [follows]
    rw [walk_cons _ _ _ _ directory]
    simp only [Nat.not_lt.mpr short, if_false, there, goes]
    exact ih
  | lastLink links directory short there notFollowed =>
    rw [walk_cons _ _ _ _ directory]
    simp [Nat.not_lt.mpr short, there, notFollowed]

theorem walk_eq_ok_iff {links : Nat} {location : Location} {steps : List Step} {place : Place} :
    files.walk follow links location steps = .ok place ↔
      Walks files follow links location steps place :=
  ⟨walks_of_walk links location steps place, walk_of_walks⟩

namespace Walks

variable {links : Nat} {location : Location} {steps : List Step} {place : Place}

/-! ## What a derivation tells -/

/-- Steps are taken in directories only. -/
theorem directory_of_ne_nil (walks : Walks files follow links location steps place)
    (more : steps ≠ []) : files.get? location = some .directory := by
  cases walks with
  | done => exact absurd rfl more
  | stay directory => exact directory
  | up directory => exact directory
  | enter directory => exact directory
  | vacant _ directory => exact directory
  | link directory => exact directory
  | lastLink _ directory => exact directory

/-- A vacant place is one where nothing is. -/
theorem absent {other : Location}
    (walks : Walks files follow links location steps (.vacant other)) : files.get? other = none := by
  generalize ended : Place.vacant other = place at walks
  induction walks with
  | done => cases ended
  | stay _ _ ih => exact ih ended
  | up _ _ ih => exact ih ended
  | enter _ _ _ _ _ ih => exact ih ended
  | vacant _ _ _ absent =>
    cases ended
    exact absent
  | link _ _ _ _ _ ih => exact ih ended
  | lastLink => cases ended

/-- Only a walk that ends at a link depends on whether such a link is followed. -/
theorem follow_of_vacant {other : Location}
    (walks : Walks files follow links location steps (.vacant other)) :
    Walks files true links location steps (.vacant other) := by
  generalize ended : Place.vacant other = place at walks
  induction walks with
  | done => cases ended
  | stay directory _ ih => exact .stay directory (ih ended)
  | up directory _ ih => exact .up directory (ih ended)
  | enter directory short there noLink _ ih => exact .enter directory short there noLink (ih ended)
  | vacant links directory short absent => exact .vacant links directory short absent
  | link directory short there _ _ ih =>
    exact .link directory short there (Or.inr rfl) (ih ended)
  | lastLink => cases ended

/-- A walk along two lists of steps passes through a directory between them.  The induction follows the
derivation of the walk and with it the links, so the part before the second list may grow on the way. -/
theorem split {first second : List Step}
    (walks : Walks files true links location (first ++ second) place) (more : second ≠ []) :
    ∃ between links', Walks files true links location first (.occupied between) ∧
      files.get? between = some .directory ∧ Walks files true links' between second place := by
  have atOnce : ∀ {links location steps place}, Walks files true links location steps place →
      [] ++ second = steps → ∃ between links', Walks files true links location [] (.occupied between) ∧
        files.get? between = some .directory ∧ Walks files true links' between second place := by
    rintro links location _ place walks rfl
    exact ⟨location, links, .done _ _, walks.directory_of_ne_nil more, walks⟩
  generalize whole : first ++ second = steps at walks
  induction walks generalizing first with
  | done links location =>
    rw [List.append_eq_nil_iff] at whole
    exact absurd whole.2 more
  | @stay links location rest place directory further ih =>
    cases first with
    | nil => exact atOnce (.stay directory further) whole
    | cons step first =>
      rcases List.cons.inj whole with ⟨rfl, rfl⟩
      rcases ih rfl with ⟨between, links', before, there, after⟩
      exact ⟨between, links', .stay directory before, there, after⟩
  | @up links location rest place directory further ih =>
    cases first with
    | nil => exact atOnce (.up directory further) whole
    | cons step first =>
      rcases List.cons.inj whole with ⟨rfl, rfl⟩
      rcases ih rfl with ⟨between, links', before, there, after⟩
      exact ⟨between, links', .up directory before, there, after⟩
  | @enter links location name rest entry place directory short there noLink further ih =>
    cases first with
    | nil => exact atOnce (.enter directory short there noLink further) whole
    | cons step first =>
      rcases List.cons.inj whole with ⟨rfl, rfl⟩
      rcases ih rfl with ⟨between, links', before, between_directory, after⟩
      exact ⟨between, links', .enter directory short there noLink before, between_directory, after⟩
  | @vacant links location name directory short absent =>
    cases first with
    | nil => exact atOnce (.vacant links directory short absent) whole
    | cons step first =>
      have nothing := (List.append_eq_nil_iff.mp (List.cons.inj whole).2).2
      exact absurd nothing more
  | @link links location name rest target place directory short there followed further ih =>
    cases first with
    | nil => exact atOnce (.link directory short there followed further) whole
    | cons step first =>
      rcases List.cons.inj whole with ⟨rfl, rfl⟩
      rcases ih (List.append_assoc _ _ _) with ⟨between, links', before, between_directory, after⟩
      exact ⟨between, links', .link directory short there (Or.inr rfl) before, between_directory,
        after⟩
  | lastLink _ _ _ _ notFollowed => cases notFollowed

/-- In a directory a walk may stay. -/
theorem append_stay {other : Location}
    (walks : Walks files true links location steps (.occupied other))
    (directory : files.get? other = some .directory) :
    Walks files true links location (steps ++ [.stay]) (.occupied other) := by
  generalize ended : Place.occupied other = place at walks ⊢
  induction walks with
  | done links location =>
    cases ended
    exact .stay directory (.done links _)
  | stay here _ ih => exact .stay here (ih ended)
  | up here _ ih => exact .up here (ih ended)
  | enter here short there noLink _ ih => exact .enter here short there noLink (ih ended)
  | vacant => cases ended
  | link here short there _ _ ih =>
    have further := ih ended
    rw [List.append_assoc] at further
    exact .link here short there (Or.inr rfl) further
  | lastLink _ _ _ _ notFollowed => cases notFollowed

end Walks

/-! ## Walks without links -/

/-- No link is strictly below a place. -/
def UnlinkedBelow (files : FileSystem) (place : Location) : Prop :=
  ∀ names target, names ≠ [] → files.get? (place ++ names) ≠ some (.link target)

/-- Where there are no links, names lead to the place that they spell. -/
theorem UnlinkedBelow.walks {place : Location} (unlinked : files.UnlinkedBelow place)
    {names : List Bytes} (some : names ≠ []) {links : Nat} {ended : Place}
    (walks : Walks files true links place (names.map .name) ended) :
    ended = .occupied (place ++ names) ∨ ended = .vacant (place ++ names) := by
  induction names generalizing place with
  | nil => exact absurd rfl some
  | cons name rest ih =>
    generalize spelled : (name :: rest).map Step.name = steps at walks
    cases walks with
    | done => cases spelled
    | stay => cases spelled
    | up => cases spelled
    | enter _ _ there _ further =>
      rcases List.cons.inj spelled with ⟨named, rfl⟩
      cases named
      cases rest with
      | nil =>
        cases further
        exact Or.inl rfl
      | cons next rest =>
        have below : files.UnlinkedBelow (place ++ [name]) := by
          intro names target _
          rw [List.append_assoc]
          exact unlinked ([name] ++ names) target (by simp)
        simpa using ih below (by simp) further
    | vacant =>
      rcases List.cons.inj spelled with ⟨named, last⟩
      cases named
      rw [List.map_eq_nil_iff.mp last]
      exact Or.inr rfl
    | link _ _ there =>
      rcases List.cons.inj spelled with ⟨named, rfl⟩
      cases named
      exact absurd there (unlinked [name] _ (by simp))
    | lastLink _ _ _ _ notFollowed => cases notFollowed

/-! ## Resolving a path as a walk -/

/-- A path that the system looks at: not empty, not too long and without a zero byte. -/
def Admissible (path : Path) : Prop :=
  0 ∉ path.bytes ∧ path.bytes ≠ [] ∧ path.bytes.length ≤ longestPath

/-- The place from which a path is walked, if there is one. -/
def startOf (files : FileSystem) (path : Path) : Option Location :=
  if path.isAbsolute then some [] else files.workingDirectory

theorem resolve_eq_ok_iff {path : Path} {place : Place} :
    files.resolve follow path = .ok place ↔
      Admissible path ∧ ∃ start, files.startOf path = some start ∧
        Walks files follow mostLinks start path.steps place := by
  simp only [← walk_eq_ok_iff]
  by_cases admissible : Admissible path
  · rcases admissible with ⟨noZero, nonempty, short⟩
    have checked : files.resolve follow path =
        (files.startOf path).elim (.error .notFound) fun start =>
          files.walk follow mostLinks start path.steps := by
      unfold resolve startOf
      rewrite [if_neg (by simpa using noZero), if_neg (by simpa using nonempty), if_neg (by omega)]
      cases path.isAbsolute with
      | true => rfl
      | false => cases files.workingDirectory <;> rfl
    rw [checked]
    cases files.startOf path <;> simp [Admissible, noZero, nonempty, short]
  · refine iff_of_false ?_ (fun resolved => admissible resolved.1)
    intro resolved
    unfold resolve at resolved
    split at resolved
    · cases resolved
    · split at resolved
      · cases resolved
      · split at resolved
        · cases resolved
        · rename_i noZero nonempty short
          exact admissible ⟨by simpa using noZero, by simpa using nonempty, by omega⟩

theorem locate_eq_ok_iff {path : Path} {location : Location} :
    files.locate path = .ok location ↔ files.resolve true path = .ok (.occupied location) := by
  unfold locate
  cases files.resolve true path with
  | error fault => simp
  | ok place => cases place <;> simp

theorem readFile_eq_ok_iff {path : Path} {content : Bytes} :
    files.readFile path = .ok content ↔
      ∃ location, files.locate path = .ok location ∧ files.get? location = some (.file content) := by
  unfold readFile
  cases files.locate path with
  | error fault => simp
  | ok location =>
    simp only [Except.ok.injEq, exists_eq_left']
    cases files.get? location with
    | none => simp
    | some entry => cases entry <;> simp

/-! ## Names below a directory -/

/-- A longer path is looked at only if a shorter one is, and both are walked from the same place. -/
theorem Admissible.of_isPrefix {shorter longer : Path} (admissible : Admissible longer)
    (spelled : shorter.bytes ≠ []) (isPrefix : shorter.bytes <+: longer.bytes) :
    Admissible shorter := by
  rcases admissible with ⟨noZero, _, short⟩
  exact ⟨fun zero => noZero (isPrefix.mem zero), spelled, Nat.le_trans isPrefix.length_le short⟩

theorem startOf_of_isPrefix (files : FileSystem) {shorter longer : Path}
    (spelled : shorter.bytes ≠ []) (isPrefix : shorter.bytes <+: longer.bytes) :
    files.startOf shorter = files.startOf longer := by
  rcases isPrefix with ⟨rest, whole⟩
  rcases List.exists_cons_of_ne_nil spelled with ⟨first, others, nonempty⟩
  simp [startOf, Path.isAbsolute, ← whole, nonempty]

section

variable {root : Path} {names : List Bytes} (spelled : root.bytes ≠ []) (some : names ≠ [])
  (areNames : ∀ name ∈ names, Path.IsName name)

include spelled some areNames

/-- A path of names below a root is walked from the directory that the root leads to. -/
theorem walks_of_resolve_join {place : Place}
    (resolved : files.resolve true (root.join (.ofNames names)) = .ok place) :
    ∃ directory links, files.locate root = .ok directory ∧
      Walks files true links directory (names.map .name) place := by
  have isPrefix := root.isPrefix_join (.ofNames names) spelled
    (Path.isAbsolute_ofNames some areNames)
  rcases Path.steps_join_ofNames some areNames root spelled with ⟨lead, joined, own⟩
  rcases resolve_eq_ok_iff.mp resolved with ⟨admissible, start, starts, walked⟩
  rw [joined] at walked
  rcases walked.split (by simpa using some) with ⟨directory, links, before, isDirectory, after⟩
  refine ⟨directory, links, ?_, after⟩
  rw [locate_eq_ok_iff, resolve_eq_ok_iff]
  refine ⟨admissible.of_isPrefix spelled isPrefix, start, ?_, ?_⟩
  · rw [startOf_of_isPrefix files spelled isPrefix, starts]
  · rcases own with own | own
    · rw [own]
      exact before
    · rw [own]
      exact before.append_stay isDirectory

/-- Without links below the root, different names lead to different places. -/
theorem locate_join_ofNames
    (unlinked : ∀ directory, files.locate root = .ok directory → files.UnlinkedBelow directory)
    {location : Location} (located : files.locate (root.join (.ofNames names)) = .ok location) :
    ∃ directory, files.locate root = .ok directory ∧ location = directory ++ names := by
  rcases walks_of_resolve_join spelled some areNames (locate_eq_ok_iff.mp located) with
    ⟨directory, links, leads, walked⟩
  refine ⟨directory, leads, ?_⟩
  rcases (unlinked directory leads).walks some walked with ended | ended
  · cases ended
    rfl
  · cases ended

end

end FileSystem

end Marginalia
