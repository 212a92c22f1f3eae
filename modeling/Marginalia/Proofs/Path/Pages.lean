import Mathlib.Data.List.Basic
import Marginalia.Proofs.Path.Spelling

/-!
# The paths of pages

The page of a file is placed by the names in the path of the file alone.  Roots, dots and double dots of
that path leave no trace, so a page lies below the directory of pages, however that directory is spelled
and wherever the file is.  What does leave a trace is every name: two files have one page exactly if their
paths have the same names in the same order.

`Path.page` spells the names with the ending on the last one.  The same path comes out if the names are first
put together and the last component is then replaced, which is what `Path.withFileName` does.

Nothing is said about files.  Links below the directory of pages can lead anywhere.
-/

namespace Marginalia

namespace Path

/-! ## Names put after a path -/

/-- What comes after a separator is read as inner components, whatever stands before it. -/
theorem components_append_separator (before next : Bytes) :
    (⟨before ++ separator :: next⟩ : Path).components =
      (⟨before ++ [separator]⟩ : Path).components ++ (pieces next).filterMap innerComponent? := by
  have nothing : pieces [] = [[]] := rfl
  have none_nil : innerComponent? [] = none := rfl
  rcases List.exists_cons_of_ne_nil (pieces_ne_nil before) with ⟨first, rest, cut⟩
  have sameLead : (⟨before ++ separator :: next⟩ : Path).isAbsolute =
      (⟨before ++ [separator]⟩ : Path).isAbsolute := by
    cases before <;> rfl
  simp only [components, pieces_append_separator, cut, nothing, sameLead, List.cons_append,
    List.filterMap_append, List.filterMap_cons, none_nil, List.filterMap_nil, List.append_nil,
    List.append_assoc]

/-- A separator at the end of a path is no component. -/
theorem components_append_separator_nil {bytes : Bytes} (spelled : bytes ≠ []) :
    (⟨bytes ++ [separator]⟩ : Path).components = (⟨bytes⟩ : Path).components := by
  have nothing : pieces [] = [[]] := rfl
  have none_nil : innerComponent? [] = none := rfl
  rcases List.exists_cons_of_ne_nil (pieces_ne_nil bytes) with ⟨first, rest, cut⟩
  have sameLead : (⟨bytes ++ [separator]⟩ : Path).isAbsolute = (⟨bytes⟩ : Path).isAbsolute := by
    cases bytes with
    | nil => exact absurd rfl spelled
    | cons byte others => rfl
  simp only [components, pieces_append_separator, cut, nothing, sameLead, List.cons_append,
    List.filterMap_append, List.filterMap_cons, none_nil, List.filterMap_nil, List.append_nil]

@[simp] theorem empty_join (next : Path) : empty.join next = next := by
  simp [join, empty]

/-- Names that are put after a path are its last components. -/
theorem components_join_ofNames (root : Path) {names : List Bytes} (nonempty : names ≠ [])
    (areNames : ∀ name ∈ names, IsName name) :
    (root.join (ofNames names)).components = root.components ++ (ofNames names).components := by
  have relative := isAbsolute_ofNames nonempty areNames
  have inner : (pieces (ofNames names).bytes).filterMap innerComponent? = (ofNames names).components := by
    rw [pieces_ofNames nonempty areNames, components_ofNames nonempty areNames, ← List.filterMap_eq_map]
    exact List.filterMap_congr fun name member => (areNames name member).innerComponent?
  by_cases spelled : root.bytes = []
  · have isEmpty : root = empty := congrArg Path.mk spelled
    rw [isEmpty, empty_join]
    rfl
  · rcases join_bytes root (ofNames names) spelled relative with ⟨before, ends, joined⟩ | joined
    · have ended : root = ⟨before ++ [separator]⟩ := congrArg Path.mk ends
      have whole : root.join (ofNames names) = ⟨before ++ separator :: (ofNames names).bytes⟩ :=
        congrArg Path.mk joined
      rw [whole, components_append_separator, inner, ended]
    · have whole : root.join (ofNames names) = ⟨root.bytes ++ separator :: (ofNames names).bytes⟩ :=
        congrArg Path.mk joined
      rw [whole, components_append_separator, components_append_separator_nil spelled, inner]

/-! ## The last component -/

/-- The names of a path, put together. -/
def onlyNames (path : Path) : Path :=
  ofComponents (path.components.filter Component.isName)

/-- The path with its last component replaced if that is a name, and with one more component otherwise. -/
def withFileName (path : Path) (name : Bytes) : Path :=
  (if path.fileName?.isSome then path.parent?.getD path else path).join ⟨name⟩

theorem filter_isName_components (path : Path) :
    path.components.filter Component.isName = path.names.map .name := by
  unfold names
  induction path.components with
  | nil => rfl
  | cons part rest ih =>
    rw [List.filter_cons, List.filterMap_cons]
    cases part with
    | name bytes => exact congrArg (Component.name bytes :: ·) ih
    | root => exact ih
    | here => exact ih
    | up => exact ih

theorem onlyNames_eq (path : Path) : path.onlyNames = ofNames path.names := by
  have plain : ∀ part ∈ path.names.map Component.name, part.IsPlain := by
    intro part member
    rcases List.mem_map.mp member with ⟨name, listed, rfl⟩
    exact isName_of_mem_names listed
  rw [onlyNames, filter_isName_components, ofComponents_eq plain, List.map_map]
  exact congrArg ofNames (List.map_id path.names)

theorem fileName?_ofNames {names : List Bytes} (areNames : ∀ name ∈ names, IsName name) :
    (ofNames names).fileName? = names.getLast? := by
  rcases List.eq_nil_or_concat names with rfl | ⟨before, last, rfl⟩
  · rfl
  · rw [List.concat_eq_append] at areNames ⊢
    have nonempty : before ++ [last] ≠ [] := List.append_ne_nil_of_right_ne_nil _ (List.cons_ne_nil _ _)
    rw [fileName?, components_ofNames nonempty areNames, List.map_append, List.map_singleton,
      List.getLast?_concat, List.getLast?_concat]

/-- The last of several names is replaced. -/
theorem withFileName_ofNames {names : List Bytes} {name : Bytes} (areNames : ∀ part ∈ names, IsName part)
    (isName : IsName name) : (ofNames names).withFileName name = ofNames (names.dropLast ++ [name]) := by
  have single : (⟨name⟩ : Path) = ofNames [name] := congrArg Path.mk (joinPieces_singleton name).symm
  have withoutLast : (if (ofNames names).fileName?.isSome then (ofNames names).parent?.getD (ofNames names)
      else ofNames names) = ofNames names.dropLast := by
    rw [fileName?_ofNames areNames]
    rcases List.eq_nil_or_concat names with rfl | ⟨before, last, rfl⟩
    · rfl
    · rw [List.concat_eq_append] at areNames ⊢
      rw [List.getLast?_concat, Option.isSome_some, if_pos rfl, parent?_ofNames areNames, Option.getD_some,
        List.dropLast_concat]
  rw [withFileName, withoutLast, single]
  cases directory : names.dropLast with
  | nil => exact empty_join _
  | cons first rest =>
    have areNamesToo : ∀ part ∈ first :: rest ++ [name], IsName part := by
      intro part member
      rcases List.mem_append.mp member with listed | isLast
      · exact areNames part (List.dropLast_subset names (directory ▸ listed))
      · rwa [List.mem_singleton.mp isLast]
    have split := join_ofNames_append (List.cons_ne_nil first rest) (List.cons_ne_nil name []) areNamesToo empty
    rw [empty_join, empty_join] at split
    exact split.symm

/-- Replacing the last of all names by itself with the ending of pages gives the page. -/
theorem page_eq_withFileName (path : Path) :
    path.page = path.onlyNames.withFileName (path.onlyNames.fileName?.getD [] ++ pageSuffix) := by
  have areNames : ∀ name ∈ path.names, IsName name := fun _ => isName_of_mem_names
  have lastName : IsName (path.names.getLast?.getD [] ++ pageSuffix) := by
    apply path.isName_of_mem_namesOfPage
    rw [namesOfPage, pageNames_eq]
    exact List.mem_append_right _ List.mem_cons_self
  rw [onlyNames_eq, fileName?_ofNames areNames, withFileName_ofNames areNames lastName, ← pageNames_eq]
  rfl

/-! ## Names and pages -/

/-- A name is never empty, so an empty last name says that there is none. -/
theorem eq_ite_getLast? {names : List Bytes} (areNames : ∀ name ∈ names, IsName name) :
    names = if names.getLast?.getD [] = [] then [] else names.dropLast ++ [names.getLast?.getD []] := by
  rcases List.eq_nil_or_concat names with rfl | ⟨before, last, rfl⟩
  · rfl
  · rw [List.concat_eq_append] at areNames ⊢
    have spelled : last ≠ [] := (areNames last (List.mem_append_right _ List.mem_cons_self)).ne_nil
    rw [List.getLast?_concat, List.dropLast_concat, Option.getD_some, if_neg spelled]

theorem pageNames_inj {first second : List Bytes} (firstNames : ∀ name ∈ first, IsName name)
    (secondNames : ∀ name ∈ second, IsName name) (same : pageNames first = pageNames second) :
    first = second := by
  rw [pageNames_eq, pageNames_eq] at same
  rcases List.append_inj' same rfl with ⟨sameDirectory, sameLast⟩
  have sameName := List.append_cancel_right (List.cons.inj sameLast).1
  rw [eq_ite_getLast? firstNames, eq_ite_getLast? secondNames, sameDirectory, sameName]

theorem names_eq_of_components_page_eq {first second : Path}
    (same : first.page.components = second.page.components) : first.names = second.names := by
  have injective : Function.Injective Component.name := fun _ _ => Component.name.inj
  rw [components_page, components_page] at same
  exact pageNames_inj (fun _ => isName_of_mem_names) (fun _ => isName_of_mem_names)
    (List.map_injective_iff.mpr injective same)

/--
The page of a file has the names in the path of the file as its components, with the ending of pages on the
last one, or the ending alone.  This is what replacing the last of the names gives.  Since there are only
names, the page lies below whatever root it is put after.  Two paths have the same page, as it is spelled or
by its components, exactly if they have the same names.
-/
theorem page_contained (path : Path) :
    path.page = path.onlyNames.withFileName (path.onlyNames.fileName?.getD [] ++ pageSuffix) ∧
      path.page.components =
        (path.names.dropLast ++ [path.names.getLast?.getD [] ++ pageSuffix]).map .name ∧
      (∀ root : Path, (root.join path.page).components = root.components ++ path.page.components) ∧
      (∀ other : Path, path.page = other.page ↔ path.names = other.names) ∧
      ∀ other : Path, path.page.components = other.page.components ↔ path.names = other.names := by
  have samePage (other : Path) (same : path.names = other.names) : path.page = other.page := by
    rw [page, page, same]
  refine ⟨path.page_eq_withFileName, ?_, ?_, ?_, ?_⟩
  · rw [components_page, namesOfPage, pageNames_eq]
  · intro root
    exact components_join_ofNames root path.namesOfPage_ne_nil path.isName_of_mem_namesOfPage
  · intro other
    refine ⟨fun same => names_eq_of_components_page_eq ?_, samePage other⟩
    rw [same]
  · intro other
    refine ⟨names_eq_of_components_page_eq, fun same => ?_⟩
    rw [samePage other same]

end Path

end Marginalia
