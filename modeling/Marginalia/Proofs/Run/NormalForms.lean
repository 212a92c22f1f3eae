import Marginalia.Proofs.Path.Links
import Marginalia.Proofs.Run.Collection

/-!
# Normal forms tell files apart

The normal form of an input is the path that leads from the base directory to the file.  Both ends are
resolved first, so it is a path between two locations: double dots as long as the base is not above the
file, and names from there on.  It can be followed back without looking at any file, which is why two inputs
have the same normal form exactly when they lead to the same location, however they are spelled.

Links and dots are gone once a path is resolved.  What remains to be known of a location is that it consists
of names.  Names come from the pieces of paths, except those of the working directory, from which relative
paths start; that it is spelled by names has to be assumed.  Nothing is assumed of what links lead to, and
the base need not be a directory.
-/

namespace Marginalia

namespace Path

/-! ## Following components -/

/-- Follow the components of a relative path from a place.  Only names are left by a double dot, so there is
no way out of the root. -/
def travel : List Component → List Component → Option (List Component)
  | place, [] => some place
  | place, .name bytes :: rest => travel (place ++ [.name bytes]) rest
  | place, .up :: rest =>
    match place.getLast? with
    | some (.name _) => travel place.dropLast rest
    | _ => none
  | _, .root :: _ => none
  | _, .here :: _ => none

/-- A path leads from one place to another: out of the directories that only the first has, and then by
name. -/
structure LeadsFrom (source target path : Path) : Prop where
  relative : path.isAbsolute = false
  components_eq : ∃ (common : List Component) (names : List Bytes), LongestCommon common source.components target.components ∧
    path.components =
      List.replicate (source.components.length - common.length) .up ++ names.map .name
  arrives : travel source.components path.components = some target.components

/-- As many double dots as there are names at the end of a place leave them, the last one first. -/
theorem travel_ups (place : List Component) (names : List Bytes) (rest : List Component) :
    travel (place ++ names.map .name) (List.replicate names.length .up ++ rest) = travel place rest := by
  induction names using List.reverseRecOn with
  | nil => simp
  | append_singleton names last ih =>
    rw [List.length_append, List.length_singleton, List.replicate_succ, List.cons_append, List.map_append,
      List.map_singleton, ← List.append_assoc, travel, List.getLast?_concat, List.dropLast_concat]
    exact ih

theorem travel_names (place : List Component) (names : List Bytes) :
    travel place (names.map .name) = some (place ++ names.map .name) := by
  induction names generalizing place with
  | nil => simp [travel]
  | cons name rest ih => rw [List.map_cons, travel, ih, List.append_assoc, List.singleton_append]

theorem isName_of_mem_steps {path : Path} {bytes : Bytes} (member : .name bytes ∈ path.steps) :
    IsName bytes := by
  rcases List.mem_map.mp member with ⟨piece, isPiece, named⟩
  have whole := separator_not_mem_of_mem_pieces isPiece
  unfold Step.ofPiece at named
  split at named
  · cases named
  · rename_i notBlank
    split at named
    · cases named
    · rename_i notUp
      cases named
      rw [not_or] at notBlank
      exact ⟨notBlank.1, notBlank.2, notUp, whole⟩

end Path

/-! ## Locations made of names -/

/-- Every part of a location is a name. -/
def Location.Named (location : Location) : Prop :=
  ∀ name ∈ location, Path.IsName name

theorem Location.Named.concat {location : Location} (named : location.Named) {name : Bytes}
    (isName : Path.IsName name) : (location ++ [name]).Named := by
  intro part member
  rcases List.mem_append.mp member with before | last
  · exact named part before
  · rw [List.mem_singleton.mp last]
    exact isName

/-- The working directory, if there is one, is spelled by names. -/
def FileSystem.Rooted (files : FileSystem) : Prop :=
  ∀ place, files.workingDirectory = some place → place.Named

namespace FileSystem

variable {files : FileSystem}

/-- A walk from names along names ends at names.  Links bring the names of their targets. -/
theorem Walks.named {follow : Bool} {links : Nat} {location ended : Location} {steps : List Step}
    (walks : Walks files follow links location steps (.occupied ended)) (named : location.Named)
    (areNames : ∀ bytes, .name bytes ∈ steps → Path.IsName bytes) : ended.Named := by
  generalize isEnd : Place.occupied ended = place at walks
  induction walks with
  | done =>
    cases isEnd
    exact named
  | stay _ _ ih => exact ih named (fun _ member => areNames _ (List.mem_cons_of_mem _ member)) isEnd
  | up _ _ ih =>
    refine ih ?_ (fun _ member => areNames _ (List.mem_cons_of_mem _ member)) isEnd
    exact fun name member => named name (List.mem_of_mem_dropLast member)
  | enter _ _ _ _ _ ih =>
    exact ih (named.concat (areNames _ List.mem_cons_self))
      (fun _ member => areNames _ (List.mem_cons_of_mem _ member)) isEnd
  | vacant => cases isEnd
  | @link _ _ _ _ target _ _ _ _ _ _ ih =>
    refine ih ?_ ?_ isEnd
    · split
      · exact fun _ member => absurd member List.not_mem_nil
      · exact named
    · intro bytes member
      rcases List.mem_append.mp member with ofTarget | ofRest
      · exact Path.isName_of_mem_steps ofTarget
      · exact areNames bytes (List.mem_cons_of_mem _ ofRest)
  | lastLink =>
    cases isEnd
    exact named.concat (areNames _ List.mem_cons_self)

theorem Rooted.named_of_locate (rooted : files.Rooted) {path : Path} {location : Location}
    (located : files.locate path = .ok location) : location.Named := by
  rcases resolve_eq_ok_iff.mp (locate_eq_ok_iff.mp located) with ⟨_, start, starts, walks⟩
  refine walks.named ?_ fun _ => Path.isName_of_mem_steps
  unfold startOf at starts
  split at starts
  · cases starts
    exact fun _ member => absurd member List.not_mem_nil
  · exact rooted start starts

end FileSystem

namespace Location

/-- A location is spelled after the root, one name after the other. -/
theorem Named.components_toPath {location : Location} (named : location.Named) :
    location.toPath.components = .root :: location.map .name := by
  have absolute : location.toPath.isAbsolute = true := rfl
  have cut : Path.pieces location.toPath.bytes = [] :: Path.pieces (Path.joinPieces location) := by
    rw [toPath, Path.pieces, if_pos rfl]
  unfold Path.components
  rw [cut, absolute]
  cases location with
  | nil => rfl
  | cons first rest =>
    rw [Path.pieces_joinPieces (List.cons_ne_nil first rest) fun name member => (named name member).whole]
    change .root :: (first :: rest).filterMap Path.innerComponent? = _
    rw [← List.filterMap_eq_map]
    exact congrArg _ (List.filterMap_congr fun name member => (named name member).innerComponent?)

open Marginalia.Path in
/-- Both locations are below the root, so what only one of them has is made of names. -/
theorem Named.difference_eq {target directory : Location} (targetNamed : target.Named)
    (directoryNamed : directory.Named) :
    ∃ (common : List Component) (names above : List Bytes),
      target.toPath.components = common ++ names.map .name ∧
      directory.toPath.components = common ++ above.map .name ∧
      (∀ name ∈ names, IsName name) ∧
      LongestCommon common directory.toPath.components target.toPath.components ∧
      difference false target.toPath.components directory.toPath.components =
        some (List.replicate above.length .up ++ names.map .name) := by
  have plain : ∀ part ∈ directory.toPath.components, part ≠ .here ∧ part ≠ .up := by
    rw [directoryNamed.components_toPath]
    simp
  rcases Path.difference_eq target.toPath.components directory.toPath.components plain with
    ⟨common, rest, left, targetSplit, directorySplit, longest, result⟩
  have rooted : 1 ≤ common.length := by
    apply longest.longest [Component.root]
    · rw [directoryNamed.components_toPath]
      exact List.prefix_append [Component.root] _
    · rw [targetNamed.components_toPath]
      exact List.prefix_append [Component.root] _
  rcases List.exists_cons_of_length_pos rooted with ⟨first, shared, rfl⟩
  have targetNames := targetSplit
  have directoryNames := directorySplit
  rw [targetNamed.components_toPath, List.cons_append] at targetNames
  rw [directoryNamed.components_toPath, List.cons_append] at directoryNames
  rcases List.map_eq_append_iff.mp (List.cons.inj targetNames).2 with ⟨_, names, whole, _, rfl⟩
  rcases List.map_eq_append_iff.mp (List.cons.inj directoryNames).2 with ⟨_, above, _, _, rfl⟩
  rw [List.length_map] at result
  refine ⟨first :: shared, names, above, targetSplit, directorySplit, ?_, longest, result⟩
  exact fun name member => targetNamed name (whole ▸ List.mem_append_right _ member)

open Marginalia.Path in
/-- From one location to another there is always a relative path, and it leads there. -/
theorem Named.exists_relativeTo? {target directory : Location} (targetNamed : target.Named)
    (directoryNamed : directory.Named) :
    ∃ path, target.toPath.relativeTo? directory.toPath = some path ∧
      LeadsFrom directory.toPath target.toPath path := by
  rcases targetNamed.difference_eq directoryNamed with
    ⟨common, names, above, targetSplit, directorySplit, areNames, longest, result⟩
  have plain : ∀ part ∈ List.replicate above.length Component.up ++ names.map .name, part.IsPlain := by
    intro part member
    rcases List.mem_append.mp member with isUp | isName
    · cases List.eq_of_mem_replicate isUp
      trivial
    · rcases List.mem_map.mp isName with ⟨name, inNames, rfl⟩
      exact areNames name inNames
  have components := components_ofComponents plain
  refine ⟨ofComponents (List.replicate above.length .up ++ names.map .name), ?_, ?_,
    ⟨common, names, longest, ?_⟩, ?_⟩
  · unfold relativeTo?
    rw [result]
    rfl
  · rw [ofComponents_eq plain]
    exact isAbsolute_joinPieces (isPiece_of_mem_spellings plain)
  · rw [components, directorySplit, List.length_append, Nat.add_sub_cancel_left, List.length_map]
  · rw [components, directorySplit, travel_ups, travel_names, targetSplit]

end Location

/-! ## Inputs -/

namespace FileSystem

theorem canonicalize_eq_ok_iff {files : FileSystem} {path canonical : Path} :
    files.canonicalize path = .ok canonical ↔
      ∃ location, files.locate path = .ok location ∧ location.toPath = canonical := by
  unfold canonicalize
  cases files.locate path <;> simp [Except.map]

/-- An input has a normal form as soon as it resolves and the base does. -/
theorem normalForm_eq_ok_iff {files : FileSystem} {base input relative : Path} :
    files.normalForm base input = .ok relative ↔
      ∃ target directory, files.canonicalize (base.join input) = .ok target ∧
        files.canonicalize base = .ok directory ∧
        (target.relativeTo? directory).getD target = relative := by
  unfold normalForm normalizeInput
  simp only [outcome_bind, outcome_canonicalize]
  cases files.canonicalize (base.join input) with
  | error fault => exact ⟨nofun, nofun⟩
  | ok target =>
    simp only [mapError_ok]
    cases files.canonicalize base with
    | error fault => exact ⟨nofun, nofun⟩
    | ok directory => simp [mapError_ok]

variable {files : FileSystem} {base : Path}

theorem Rooted.canonicalize_eq_of_components_eq (rooted : files.Rooted) {first second target target' : Path}
    (canonical : files.canonicalize first = .ok target)
    (canonical' : files.canonicalize second = .ok target')
    (same : target.components = target'.components) : target = target' := by
  rcases canonicalize_eq_ok_iff.mp canonical with ⟨location, located, rfl⟩
  rcases canonicalize_eq_ok_iff.mp canonical' with ⟨location', located', rfl⟩
  rw [(rooted.named_of_locate located).components_toPath,
    (rooted.named_of_locate located').components_toPath] at same
  have names := List.map_injective_iff.mpr (fun _ _ => Path.Component.name.inj) (List.cons.inj same).2
  exact congrArg Location.toPath names

/-- The path relative to the base is found, and it leads from the base to the file. -/
theorem Rooted.leadsFrom_of_normalForm (rooted : files.Rooted) {input relative : Path}
    (normal : files.normalForm base input = .ok relative) :
    ∃ target directory, files.canonicalize (base.join input) = .ok target ∧
      files.canonicalize base = .ok directory ∧ target.relativeTo? directory = some relative ∧
      Path.LeadsFrom directory target relative := by
  rcases normalForm_eq_ok_iff.mp normal with ⟨target, directory, canonical, canonicalBase, chosen⟩
  rcases canonicalize_eq_ok_iff.mp canonical with ⟨location, located, rfl⟩
  rcases canonicalize_eq_ok_iff.mp canonicalBase with ⟨place, placed, rfl⟩
  rcases (rooted.named_of_locate located).exists_relativeTo? (rooted.named_of_locate placed) with
    ⟨path, found, leads⟩
  rw [found, Option.getD_some] at chosen
  subst chosen
  exact ⟨_, _, canonical, canonicalBase, found, leads⟩

end FileSystem

/--
The normal form of an input is a relative path, double dots before names, that leads from the resolved base
to the resolved file; it goes up no further than to the last directory above both.  Inputs have the same
normal form exactly when they resolve to the same path, since a normal form can be followed from the base and
its components determine the target; and normal forms with the same components are spelled alike.
-/
theorem FileSystem.normalForm_identifies_files (files : FileSystem) (rooted : files.Rooted) (base : Path) :
    (∀ input relative, files.normalForm base input = .ok relative →
      ∃ target directory, files.canonicalize (base.join input) = .ok target ∧
        files.canonicalize base = .ok directory ∧ target.relativeTo? directory = some relative ∧
        Path.LeadsFrom directory target relative) ∧
    ∀ first second relative relative', files.normalForm base first = .ok relative →
      files.normalForm base second = .ok relative' →
      (relative = relative' ↔
        files.canonicalize (base.join first) = files.canonicalize (base.join second)) ∧
      (relative.components = relative'.components ↔ relative = relative') := by
  refine ⟨fun _ _ normal => rooted.leadsFrom_of_normalForm normal, ?_⟩
  intro first second relative relative' normal normal'
  rcases rooted.leadsFrom_of_normalForm normal with
    ⟨target, directory, canonical, canonicalBase, found, leads⟩
  rcases rooted.leadsFrom_of_normalForm normal' with
    ⟨target', directory', canonical', canonicalBase', found', leads'⟩
  cases canonicalBase.symm.trans canonicalBase'
  have target_eq (same : relative.components = relative'.components) : target = target' := by
    have arrives := leads.arrives
    rw [same, leads'.arrives] at arrives
    exact rooted.canonicalize_eq_of_components_eq canonical canonical' (Option.some.inj arrives).symm
  have relative_eq (same : target = target') : relative = relative' := by
    rw [same, found'] at found
    exact (Option.some.inj found).symm
  rw [canonical, canonical']
  refine ⟨⟨?_, ?_⟩, ⟨?_, congrArg Path.components⟩⟩
  · intro same
    rw [target_eq (congrArg Path.components same)]
  · intro same
    exact relative_eq (Except.ok.inj same)
  · intro same
    exact relative_eq (target_eq same)

/-- A file in a directory that has two names, and a file of the same name above it. -/
def filesWithAlias : FileSystem where
  entries :=
    [([Utf8.encode "s".toList], .directory), ([Utf8.encode "l".toList], .link (.ofText "s".toList)),
      ([Utf8.encode "s".toList, Utf8.encode "x".toList], .file []), ([Utf8.encode "x".toList], .file [])]
  workingDirectory := some []

/-- The file below the directory is found under the directory's other name and on a detour; the file above
it is not the same. -/
theorem FileSystem.normalForm_identifies_files_alias :
    filesWithAlias.Rooted ∧
      filesWithAlias.normalForm (.ofText "l".toList) (.ofText "./x".toList) = .ok (.ofText "x".toList) ∧
      filesWithAlias.normalForm (.ofText "l".toList) (.ofText "../s/x".toList) =
        .ok (.ofText "x".toList) ∧
      filesWithAlias.normalForm (.ofText "l".toList) (.ofText "/x".toList) =
        .ok (.ofText "../x".toList) ∧
      filesWithAlias.canonicalize (.ofText "l/./x".toList) =
        filesWithAlias.canonicalize (.ofText "l/../s/x".toList) ∧
      filesWithAlias.canonicalize (.ofText "l/./x".toList) ≠
        filesWithAlias.canonicalize (.ofText "/x".toList) ∧
      ∃ target directory, filesWithAlias.canonicalize (.ofText "/x".toList) = .ok target ∧
        filesWithAlias.canonicalize (.ofText "l".toList) = .ok directory ∧
        Path.LeadsFrom directory target (.ofText "../x".toList) := by
  have rooted : filesWithAlias.Rooted := by
    rintro _ ⟨⟩ name member
    exact absurd member List.not_mem_nil
  have here : filesWithAlias.normalForm (.ofText "l".toList) (.ofText "./x".toList) =
      .ok (.ofText "x".toList) := rfl
  have detour : filesWithAlias.normalForm (.ofText "l".toList) (.ofText "../s/x".toList) =
      .ok (.ofText "x".toList) := rfl
  have above : filesWithAlias.normalForm (.ofText "l".toList) (.ofText "/x".toList) =
      .ok (.ofText "../x".toList) := rfl
  rcases normalForm_identifies_files filesWithAlias rooted (.ofText "l".toList) with ⟨leads, identifies⟩
  have same := (identifies _ _ _ _ here detour).1.mp rfl
  have differs := (identifies _ _ _ _ here above).1.not.mp (by decide)
  rcases leads _ _ above with ⟨target, directory, canonical, canonicalBase, _, leadsAbove⟩
  exact ⟨rooted, here, detour, above, same, differs, target, directory, canonical, canonicalBase,
    leadsAbove⟩

end Marginalia
