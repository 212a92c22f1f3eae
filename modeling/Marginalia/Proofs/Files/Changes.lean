import Marginalia.Proofs.Files.Growth
import Marginalia.Proofs.Path.Names

/-!
# What the operations change

`Changes` bounds the difference between two file systems by paths: everything is as it was except at
places to which one of certain file paths leads, and except for new directories at places to which one of
certain directory paths leads.  Paths are followed in the later file system, where those that have just
been made lead somewhere.  The bound composes, and each operation gets one.

The directories made for a path are described by the paths above it, as they are spelled.  With a double
dot in the spelling such a path need not lead to a place above the file.
-/

namespace Marginalia

/-- A path above another one: its parent, or a path above its parent. -/
inductive Path.Above : Path → Path → Prop where
  | parent {path above : Path} (isParent : path.parent? = some above) : Above above path
  | further {path parent above : Path} (isParent : path.parent? = some parent)
      (higher : Above above parent) : Above above path

namespace Path

/-! ## The spelling of a parent -/

theorem mem_of_mem_trimPieces {parts : List Bytes} {part : Bytes}
    (member : part ∈ trimPieces parts) : part ∈ parts := by
  unfold trimPieces at member
  rw [List.mem_reverse] at member
  exact List.mem_reverse.mp ((List.dropWhile_sublist _).mem member)

theorem ne_nil_of_trimPieces {parts before : List Bytes} {last : Bytes}
    (trimmed : trimPieces parts = before ++ [last]) : last ≠ [] := by
  unfold trimPieces at trimmed
  rw [List.reverse_eq_iff, List.reverse_append] at trimmed
  rintro rfl
  have stops := List.head?_dropWhile_not
    (fun piece : Bytes => decide (piece = [] ∨ piece = [dot])) parts.reverse
  rw [trimmed] at stops
  simp at stops

theorem joinPieces_concat (before : List Bytes) (last : Bytes) :
    ∃ lead, joinPieces (before ++ [last]) = lead ++ last := by
  induction before with
  | nil => exact ⟨[], by simp⟩
  | cons first rest ih =>
    rcases ih with ⟨lead, joined⟩
    have more : rest ++ [last] ≠ [] :=
      List.append_ne_nil_of_right_ne_nil rest (List.cons_ne_nil last [])
    rcases List.exists_cons_of_ne_nil more with ⟨second, others, nonempty⟩
    refine ⟨first ++ separator :: lead, ?_⟩
    rw [List.cons_append, nonempty, joinPieces_cons_cons, ← nonempty, joined]
    simp

theorem take_leadLength (path : Path) :
    path.bytes.take path.leadLength = [] ∨ path.bytes.take path.leadLength = [separator] ∨
      path.bytes.take path.leadLength = [dot] := by
  unfold leadLength
  cases bytes : path.bytes with
  | nil => simp
  | cons first rest =>
    by_cases isSeparator : first = separator
    · simp [isSeparator]
    · by_cases isDot : first = dot ∧ (rest = [] ∨ rest.head? = some separator)
      · simp only [if_neg isSeparator, if_pos isDot]
        exact Or.inr (Or.inr (by simp [isDot.1]))
      · simp [isSeparator, isDot]

/-- A parent has no separator at its end, unless it is the root: its last piece is not empty and has no
separator in it. -/
theorem getLast?_parent {path parent : Path} (isParent : path.parent? = some parent) :
    parent.bytes.getLast? ≠ some separator ∨ parent.bytes = [separator] := by
  have lead := path.take_leadLength
  unfold parent? at isParent
  simp only at isParent
  split at isParent
  · split at isParent
    · cases isParent
      exact Or.inl (by simp [empty])
    · cases isParent
  · rename_i last before reversed
    cases isParent
    rcases List.eq_nil_or_concat (trimPieces before.reverse) with nothing | ⟨others, final, trimmed⟩
    · rw [nothing]
      rcases lead with isNil | isRoot | isDot
      · simp [isNil, joinPieces]
      · exact Or.inr (by simp [isRoot, joinPieces])
      · exact Or.inl (by simp [isDot, joinPieces, dot, separator])
    · rw [List.concat_eq_append] at trimmed
      have member : final ∈ pieces (path.bytes.drop path.leadLength) := by
        apply mem_of_mem_trimPieces
        rw [← List.mem_reverse, reversed]
        apply List.mem_cons_of_mem
        rw [← List.mem_reverse]
        apply mem_of_mem_trimPieces
        simp [trimmed]
      have nonempty := ne_nil_of_trimPieces trimmed
      rcases joinPieces_concat others final with ⟨start, joined⟩
      refine Or.inl fun ends => ?_
      rw [trimmed, joined, ← List.append_assoc, List.getLast?_append,
        List.getLast?_eq_some_getLast nonempty, Option.some_or] at ends
      have inside := List.getLast_mem nonempty
      rw [Option.some.inj ends] at inside
      exact separator_not_mem_of_mem_pieces member inside

end Path

namespace FileSystem

/-! ## Bounds on changes -/

/-- Every change is the content of a file that one of the `written` paths leads to, or a new directory
that one of the `made` paths leads to. -/
structure Changes (before after : FileSystem) (written made : Path → Prop) : Prop where
  grows : before.Grows after
  only (location : Location) :
    after.get? location = before.get? location ∨
      (∃ path content, written path ∧ after.locate path = .ok location ∧
        after.get? location = some (.file content)) ∨
      (before.get? location = none ∧ after.get? location = some .directory ∧
        ∃ path, made path ∧ after.locate path = .ok location)

namespace Changes

variable {first second third : FileSystem} {written made written' made' : Path → Prop}

theorem refl (files : FileSystem) : files.Changes files written made where
  grows := .refl files
  only := fun _ => Or.inl rfl

theorem mono (changes : first.Changes second written made)
    (moreWritten : ∀ path, written path → written' path) (moreMade : ∀ path, made path → made' path) :
    first.Changes second written' made' where
  grows := changes.grows
  only := by
    intro location
    rcases changes.only location with same | ⟨path, content, isWritten, leads, there⟩ |
      ⟨absent, there, path, isMade, leads⟩
    · exact Or.inl same
    · exact Or.inr (Or.inl ⟨path, content, moreWritten path isWritten, leads, there⟩)
    · exact Or.inr (Or.inr ⟨absent, there, path, moreMade path isMade, leads⟩)

theorem trans (earlier : first.Changes second written made)
    (later : second.Changes third written made) : first.Changes third written made where
  grows := earlier.grows.trans later.grows
  only := by
    intro location
    rcases later.only location with same | changed | ⟨absent, there, path, isMade, leads⟩
    · rw [same]
      rcases earlier.only location with same' | ⟨path, content, isWritten, leads, there⟩ |
        ⟨absent, there, path, isMade, leads⟩
      · exact Or.inl same'
      · exact Or.inr (Or.inl ⟨path, content, isWritten, later.grows.locate leads, there⟩)
      · exact Or.inr (Or.inr ⟨absent, there, path, isMade, later.grows.locate leads⟩)
    · exact Or.inr (Or.inl changed)
    · exact Or.inr (Or.inr ⟨earlier.grows.none_of_later absent, there, path, isMade, leads⟩)

/-- A file that no written path leads to keeps its content. -/
theorem file_kept (changes : first.Changes second written made) {location : Location}
    {content : Bytes} (there : first.get? location = some (.file content))
    (notWritten : ∀ path, written path → second.locate path ≠ .ok location) :
    second.get? location = some (.file content) := by
  rcases changes.only location with same | ⟨path, _, isWritten, leads, _⟩ | ⟨absent, _⟩
  · rw [same, there]
  · exact absurd leads (notWritten path isWritten)
  · rw [there] at absent
    cases absent

end Changes

/-! ## Writing a file -/

/-- A file that has been written is where its path leads, and nothing else has changed. -/
theorem writeFile_spec {files after : FileSystem} {path : Path} {content : Bytes}
    (done : files.writeFile path content = .ok after) :
    ∃ location, after = files.set location (.file content) ∧
      after.get? location = some (.file content) ∧ after.locate path = .ok location ∧
      files.Grows after := by
  unfold writeFile at done
  split at done
  · split at done <;> cases done
  · split at done
    · rename_i location resolved
      cases done
      rcases resolve_eq_ok_iff.mp resolved with ⟨_, _, _, walked⟩
      have absent := walked.absent
      have below : location ≠ [] := ne_root_of_get?_ne files (by simp [absent])
      have grows := grows_set_vacant (.file content) absent (by simp)
      have there := get?_set_self files (.file content) below
      refine ⟨location, rfl, there, ?_, grows⟩
      rw [locate_eq_ok_iff, resolve_grows grows resolved, Place.within, if_neg (by simp [there])]
    · rename_i location resolved
      split at done
      · rename_i old present
        cases done
        have below : location ≠ [] := ne_root_of_get?_ne files (by simp [present])
        have grows := grows_set_file content present
        have there := get?_set_self files (.file content) below
        refine ⟨location, rfl, there, ?_, grows⟩
        rw [locate_eq_ok_iff, resolve_grows grows resolved]
        rfl
      · cases done
    · cases done

theorem writeFile_changes {files after : FileSystem} {path : Path} {content : Bytes}
    (done : files.writeFile path content = .ok after) (made : Path → Prop) :
    files.Changes after (· = path) made := by
  rcases writeFile_spec done with ⟨location, rfl, there, leads, grows⟩
  refine ⟨grows, fun other => ?_⟩
  by_cases same : other = location
  · subst same
    exact Or.inr (Or.inl ⟨path, content, rfl, leads, there⟩)
  · exact Or.inl (get?_set_of_ne files _ same)

/-! ## Making directories -/

/-- A directory is only added at the vacant place that the path leads to.  A last link is not followed when
it is made, but no vacant place is behind one. -/
theorem makeDirectory_changes {files after : FileSystem} {path : Path}
    (done : files.makeDirectory path = .ok after) (tidy : withoutTrailing path = path)
    (written : Path → Prop) : files.Changes after written (· = path) := by
  unfold makeDirectory at done
  rw [tidy] at done
  split at done
  · rename_i location resolved
    cases done
    rcases resolve_eq_ok_iff.mp resolved with ⟨admissible, start, starts, walked⟩
    have absent := walked.absent
    have below : location ≠ [] := ne_root_of_get?_ne files (by simp [absent])
    have grows := grows_set_vacant .directory absent (by simp)
    have there := get?_set_self files .directory below
    have followed : files.resolve true path = .ok (.vacant location) :=
      resolve_eq_ok_iff.mpr ⟨admissible, start, starts, walked.follow_of_vacant⟩
    refine ⟨grows, fun other => ?_⟩
    by_cases same : other = location
    · subst same
      refine Or.inr (Or.inr ⟨absent, there, path, rfl, ?_⟩)
      rw [locate_eq_ok_iff, resolve_grows grows followed, Place.within, if_neg (by simp [there])]
    · exact Or.inl (get?_set_of_ne files _ same)
  · cases done
  · cases done

private theorem withoutTrailing_eq_self {bytes : Bytes}
    (ends : bytes.getLast? ≠ some Path.separator ∨ bytes = [Path.separator]) :
    withoutTrailing ⟨bytes⟩ = ⟨bytes⟩ := by
  rcases ends with ends | rfl
  · have kept : (bytes.reverse.dropWhile (· == Path.separator)).reverse = bytes := by
      rw [← List.head?_reverse] at ends
      cases reversed : bytes.reverse with
      | nil => simpa using reversed.symm
      | cons last before =>
        rw [reversed] at ends
        have stops : (last == Path.separator) = false := by simpa using ends
        rw [List.dropWhile_cons_of_neg (by simp [stops]), ← reversed, List.reverse_reverse]
    unfold withoutTrailing
    simp only [kept]
    cases bytes <;> simp
  · decide

theorem withoutTrailing_parent {path parent : Path} (isParent : path.parent? = some parent) :
    withoutTrailing parent = parent :=
  withoutTrailing_eq_self (Path.getLast?_parent isParent)

/-- Missing directories are made for a path and for paths above it. -/
theorem makeDirectoriesWithin_changes (depth : Nat) (files : FileSystem) (path : Path)
    (tidy : withoutTrailing path = path) (written : Path → Prop) :
    files.Changes (makeDirectoriesWithin depth files path).2 written
      (fun made => made = path ∨ made.Above path) := by
  induction depth generalizing files path with
  | zero => exact .refl files
  | succ depth ih =>
    have own : ∀ {before after : FileSystem}, before.makeDirectory path = .ok after →
        before.Changes after written (fun made => made = path ∨ made.Above path) := fun done =>
      (makeDirectory_changes done tidy written).mono (fun _ => id) (fun _ => Or.inl)
    unfold makeDirectoriesWithin
    simp only
    split
    · exact .refl files
    · split
      · rename_i done
        exact own done
      · split
        · exact .refl files
        · rename_i parent isParent
          have above := ih files parent (withoutTrailing_parent isParent)
          have higher : files.Changes (makeDirectoriesWithin depth files parent).2 written
              (fun made => made = path ∨ made.Above path) := by
            refine above.mono (fun _ => id) ?_
            rintro made (rfl | higher)
            · exact Or.inr (.parent isParent)
            · exact Or.inr (.further isParent higher)
          split
          · rename_i fault left
            rw [left] at higher
            exact higher
          · rename_i left
            rw [left] at higher
            split
            · rename_i done
              exact higher.trans (own done)
            · exact higher
      · exact .refl files

end FileSystem

end Marginalia
