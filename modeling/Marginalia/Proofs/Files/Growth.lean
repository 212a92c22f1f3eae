import Marginalia.Proofs.Files.Walk

/-!
# Growing file systems

The program only ever creates directories, creates files and replaces the content of files.  A file
system *grows* under such changes: what was there stays what it was, up to the content of files, and no
link appears.  Growth is what makes paths stable.  A path that leads somewhere leads to the same place
in every later file system, so a statement about a path may be made at the end of a run.

Content is not covered by growth; each operation says by itself which file it has written.
-/

namespace Marginalia

namespace FileSystem

/-! ## Looking up what was put -/

private theorem lookup_filter_of_ne {entries : List (Location × Entry)} {location other : Location}
    (different : other ≠ location) :
    (entries.filter fun entry => entry.1 != location).lookup other = entries.lookup other := by
  induction entries with
  | nil => rfl
  | cons entry rest ih =>
    rcases entry with ⟨place, content⟩
    by_cases same : place = location
    · subst same
      have skipped : (other == place) = false := by simpa using different
      simp [List.lookup_cons, skipped, ih]
    · simp [same, List.lookup_cons, ih]

/-- Every place but the one that is put to keeps what it has. -/
theorem get?_set_of_ne (files : FileSystem) {location other : Location} (entry : Entry)
    (different : other ≠ location) : (files.set location entry).get? other = files.get? other := by
  cases other with
  | nil => rfl
  | cons name rest =>
    have skipped : (name :: rest == location) = false := by simpa using different
    simp only [get?, set, List.lookup_cons, skipped]
    exact lookup_filter_of_ne different

theorem get?_set_self (files : FileSystem) {location : Location} (entry : Entry)
    (below : location ≠ []) : (files.set location entry).get? location = some entry := by
  cases location with
  | nil => exact absurd rfl below
  | cons name rest => simp [get?, set]

/-- The root is a directory, so nothing else is there. -/
theorem ne_root_of_get?_ne (files : FileSystem) {location : Location}
    (notDirectory : files.get? location ≠ some .directory) : location ≠ [] := by
  rintro rfl
  exact notDirectory rfl

/-! ## Growth -/

/-- Nothing is removed, nothing but the content of files is changed, and no link is added. -/
structure Grows (before after : FileSystem) : Prop where
  workingDirectory : after.workingDirectory = before.workingDirectory
  directory {location : Location} :
    before.get? location = some .directory → after.get? location = some .directory
  file {location : Location} {content : Bytes} :
    before.get? location = some (.file content) →
      ∃ content', after.get? location = some (.file content')
  link {location : Location} {target : Path} :
    before.get? location = some (.link target) → after.get? location = some (.link target)
  noLink {location : Location} {target : Path} :
    before.get? location = none → after.get? location ≠ some (.link target)

namespace Grows

theorem refl (files : FileSystem) : files.Grows files where
  workingDirectory := rfl
  directory := id
  file := fun {_ content} there => ⟨content, there⟩
  link := id
  noLink := by
    intro _ _ vacant
    simp [vacant]

/-- What is somewhere does not vanish. -/
theorem ne_none {before after : FileSystem} (grows : before.Grows after) {location : Location}
    (there : before.get? location ≠ none) : after.get? location ≠ none := by
  cases entry : before.get? location with
  | none => exact absurd entry there
  | some entry' =>
    cases entry' with
    | file content =>
      rcases grows.file entry with ⟨content', kept⟩
      simp [kept]
    | directory => simp [grows.directory entry]
    | link target => simp [grows.link entry]

theorem none_of_later {before after : FileSystem} (grows : before.Grows after) {location : Location}
    (later : after.get? location = none) : before.get? location = none := by
  cases entry : before.get? location with
  | none => rfl
  | some _ => exact absurd later (grows.ne_none (by simp [entry]))

/-- A link that is there later was there before. -/
theorem link_of_later {before after : FileSystem} (grows : before.Grows after) {location : Location}
    {target : Path} (later : after.get? location = some (.link target)) :
    before.get? location = some (.link target) := by
  cases entry : before.get? location with
  | none => exact absurd later (grows.noLink entry)
  | some entry' =>
    cases entry' with
    | file content =>
      rcases grows.file entry with ⟨content', kept⟩
      rw [kept] at later
      cases later
    | directory =>
      rw [grows.directory entry] at later
      cases later
    | link other =>
      rw [grows.link entry] at later
      exact later

theorem trans {first second third : FileSystem} (earlier : first.Grows second)
    (later : second.Grows third) : first.Grows third where
  workingDirectory := later.workingDirectory.trans earlier.workingDirectory
  directory := fun there => later.directory (earlier.directory there)
  file := by
    intro location content there
    rcases earlier.file there with ⟨content', kept⟩
    exact later.file kept
  link := fun there => later.link (earlier.link there)
  noLink := by
    intro location target vacant linked
    exact earlier.noLink vacant (later.link_of_later linked)

end Grows

/-- Putting a file or a directory at a vacant place is growth. -/
theorem grows_set_vacant {files : FileSystem} {location : Location} (entry : Entry)
    (vacant : files.get? location = none) (noLink : ∀ target, entry ≠ .link target) :
    files.Grows (files.set location entry) := by
  have elsewhere : ∀ {other : Location}, files.get? other ≠ none →
      (files.set location entry).get? other = files.get? other := by
    intro other there
    refine get?_set_of_ne files entry ?_
    rintro rfl
    exact there vacant
  have below : location ≠ [] := ne_root_of_get?_ne files (by simp [vacant])
  refine ⟨rfl, ?_, ?_, ?_, ?_⟩
  · intro other there
    rw [elsewhere (by simp [there]), there]
  · intro other content there
    exact ⟨content, by rw [elsewhere (by simp [there]), there]⟩
  · intro other target there
    rw [elsewhere (by simp [there]), there]
  · intro other target absent
    by_cases same : other = location
    · subst same
      rw [get?_set_self files entry below]
      simpa using noLink target
    · rw [get?_set_of_ne files entry same, absent]
      simp

/-- Replacing the content of a file is growth. -/
theorem grows_set_file {files : FileSystem} {location : Location} {old : Bytes} (new : Bytes)
    (there : files.get? location = some (.file old)) :
    files.Grows (files.set location (.file new)) := by
  have elsewhere : ∀ {other : Location}, files.get? other ≠ some (.file old) →
      (files.set location (.file new)).get? other = files.get? other := by
    intro other different
    refine get?_set_of_ne files _ ?_
    rintro rfl
    exact different there
  have below : location ≠ [] := ne_root_of_get?_ne files (by simp [there])
  refine ⟨rfl, ?_, ?_, ?_, ?_⟩
  · intro other entry
    rw [elsewhere (by simp [entry]), entry]
  · intro other content entry
    by_cases same : other = location
    · subst same
      exact ⟨new, get?_set_self files _ below⟩
    · exact ⟨content, by rw [get?_set_of_ne files _ same, entry]⟩
  · intro other target entry
    rw [elsewhere (by simp [entry]), entry]
  · intro other target absent
    rw [elsewhere (by simp [absent]), absent]
    simp

/-! ## Paths in a growing file system -/

/-- Where a walk ends once the file system has grown: something may be at a vacant place by then. -/
def Place.within (files : FileSystem) : Place → Place
  | .occupied location => .occupied location
  | .vacant location =>
    if files.get? location = none then .vacant location else .occupied location

/-- A walk that succeeds goes the same way ever after.  Something may have been put at a vacant place in
which it ended, but no link. -/
theorem Grows.walks {before after : FileSystem} (grows : before.Grows after) {follow : Bool}
    {links : Nat} {location : Location} {steps : List Step} {place : Place}
    (walks : Walks before follow links location steps place) :
    Walks after follow links location steps (Place.within after place) := by
  induction walks with
  | done links location => exact .done links location
  | stay directory _ ih => exact .stay (grows.directory directory) ih
  | up directory _ ih => exact .up (grows.directory directory) ih
  | @enter links location name rest entry place directory short there noLink _ ih =>
    cases entry with
    | link target => exact absurd rfl (noLink target)
    | directory =>
      exact .enter (grows.directory directory) short (grows.directory there) noLink ih
    | file content =>
      rcases grows.file there with ⟨content', kept⟩
      exact .enter (grows.directory directory) short kept (by simp) ih
  | @vacant links location name directory short absent =>
    cases later : after.get? (location ++ [name]) with
    | none =>
      rw [Place.within, if_pos later]
      exact .vacant links (grows.directory directory) short later
    | some entry =>
      rw [Place.within, if_neg (by simp [later])]
      refine .enter (grows.directory directory) short later ?_ (.done links _)
      rintro target rfl
      exact grows.noLink absent later
  | link directory short there followed _ ih =>
    exact .link (grows.directory directory) short (grows.link there) followed ih
  | lastLink links directory short there notFollowed =>
    exact .lastLink links (grows.directory directory) short (grows.link there) notFollowed

theorem resolve_grows {before after : FileSystem} (grows : before.Grows after) {follow : Bool}
    {path : Path} {place : Place} (resolved : before.resolve follow path = .ok place) :
    after.resolve follow path = .ok (Place.within after place) := by
  rcases resolve_eq_ok_iff.mp resolved with ⟨admissible, start, starts, walked⟩
  refine resolve_eq_ok_iff.mpr ⟨admissible, start, ?_, grows.walks walked⟩
  rw [← starts, startOf, startOf, grows.workingDirectory]

/-- A path that leads somewhere leads there ever after. -/
theorem Grows.locate {before after : FileSystem} (grows : before.Grows after) {path : Path}
    {location : Location} (located : before.locate path = .ok location) :
    after.locate path = .ok location :=
  locate_eq_ok_iff.mpr (resolve_grows grows (locate_eq_ok_iff.mp located))

end FileSystem

end Marginalia
