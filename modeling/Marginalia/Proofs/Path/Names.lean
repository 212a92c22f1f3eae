import Marginalia.Files.FileSystem

/-!
# Paths of names

Most paths that the program builds are made of names alone.  Such a path is spelled by joining the
names, and cutting the spelling at its separators gives the names back.  From this follow the components
and the steps of a page path, and the steps of a page path below a directory, however that directory is
spelled.
-/

namespace Marginalia

namespace Path

/-! ## Pieces -/

theorem pieces_ne_nil (bytes : Bytes) : pieces bytes ≠ [] := by
  cases bytes with
  | nil => simp [pieces]
  | cons byte rest =>
    unfold pieces
    split
    · simp
    · split <;> simp

/-- A separator ends one piece and begins the next. -/
theorem pieces_append_separator (first second : Bytes) :
    pieces (first ++ separator :: second) = pieces first ++ pieces second := by
  induction first with
  | nil => simp [pieces]
  | cons byte rest ih =>
    by_cases isSeparator : byte = separator
    · simp [pieces, isSeparator, ih]
    · rcases List.exists_cons_of_ne_nil (pieces_ne_nil rest) with ⟨piece, others, cut⟩
      simp [pieces, isSeparator, ih, cut]

theorem separator_not_mem_of_mem_pieces {bytes piece : Bytes} (member : piece ∈ pieces bytes) :
    separator ∉ piece := by
  induction bytes generalizing piece with
  | nil =>
    simp only [pieces, List.mem_singleton] at member
    simp [member]
  | cons byte rest ih =>
    by_cases isSeparator : byte = separator
    · simp only [pieces, isSeparator, if_true, List.mem_cons] at member
      rcases member with rfl | member
      · simp
      · exact ih member
    · rcases List.exists_cons_of_ne_nil (pieces_ne_nil rest) with ⟨first, others, cut⟩
      simp only [pieces, isSeparator, if_false, cut, List.mem_cons] at member
      rcases member with rfl | member
      · have kept : separator ∉ first := ih (by simp [cut])
        simpa [kept] using fun same => isSeparator same.symm
      · exact ih (by simp [cut, member])

theorem pieces_of_separator_not_mem {bytes : Bytes} (whole : separator ∉ bytes) :
    pieces bytes = [bytes] := by
  induction bytes with
  | nil => rfl
  | cons byte rest ih =>
    simp only [List.mem_cons, not_or] at whole
    have isName : byte ≠ separator := fun same => whole.1 same.symm
    simp [pieces, isName, ih whole.2]

theorem joinPieces_cons_cons (first second : Bytes) (rest : List Bytes) :
    joinPieces (first :: second :: rest) = first ++ separator :: joinPieces (second :: rest) := by
  simp [joinPieces, List.intercalate, List.intersperse]

@[simp] theorem joinPieces_singleton (piece : Bytes) : joinPieces [piece] = piece := by
  simp [joinPieces, List.intercalate]

/-- Pieces without separators are read back. -/
theorem pieces_joinPieces {parts : List Bytes} (some : parts ≠ [])
    (whole : ∀ part ∈ parts, separator ∉ part) : pieces (joinPieces parts) = parts := by
  induction parts with
  | nil => exact absurd rfl some
  | cons first rest ih =>
    rcases List.forall_mem_cons.mp whole with ⟨firstWhole, restWhole⟩
    cases rest with
    | nil => rw [joinPieces_singleton, pieces_of_separator_not_mem firstWhole]
    | cons second rest =>
      rw [joinPieces_cons_cons, pieces_append_separator, pieces_of_separator_not_mem firstWhole,
        ih (by simp) restWhole]
      rfl

/-! ## Names -/

/-- Bytes that are a component of their own wherever they stand as a piece. -/
structure IsName (bytes : Bytes) : Prop where
  ne_nil : bytes ≠ []
  ne_dot : bytes ≠ [dot]
  ne_dots : bytes ≠ [dot, dot]
  whole : separator ∉ bytes

theorem IsName.innerComponent? {bytes : Bytes} (isName : IsName bytes) :
    innerComponent? bytes = some (.name bytes) := by
  simp [Path.innerComponent?, isName.ne_nil, isName.ne_dot, isName.ne_dots]

theorem IsName.firstComponent? {bytes : Bytes} (isName : IsName bytes) :
    firstComponent? bytes = some (.name bytes) := by
  rw [Path.firstComponent?, if_neg isName.ne_dot, isName.innerComponent?]

theorem IsName.step {bytes : Bytes} (isName : IsName bytes) : Step.ofPiece bytes = .name bytes := by
  simp [Step.ofPiece, isName.ne_nil, isName.ne_dot, isName.ne_dots]

theorem isName_of_innerComponent? {piece bytes : Bytes} (whole : separator ∉ piece)
    (named : innerComponent? piece = some (.name bytes)) : IsName bytes := by
  unfold Path.innerComponent? at named
  split at named
  · cases named
  · rename_i notBlank
    split at named
    · cases named
    · rename_i notUp
      cases named
      simp only [not_or] at notBlank
      exact ⟨notBlank.1, notBlank.2, notUp, whole⟩

theorem isName_of_firstComponent? {piece bytes : Bytes} (whole : separator ∉ piece)
    (named : firstComponent? piece = some (.name bytes)) : IsName bytes := by
  unfold Path.firstComponent? at named
  split at named
  · cases named
  · exact isName_of_innerComponent? whole named

theorem isName_of_mem_components {path : Path} {bytes : Bytes}
    (member : .name bytes ∈ path.components) : IsName bytes := by
  rcases List.exists_cons_of_ne_nil (pieces_ne_nil path.bytes) with ⟨first, rest, cut⟩
  have whole : ∀ piece ∈ first :: rest, separator ∉ piece := fun piece member =>
    separator_not_mem_of_mem_pieces (cut ▸ member)
  simp only [components, cut, List.mem_append, List.mem_filterMap] at member
  rcases member with lead | ⟨piece, later, named⟩
  · split at lead
    · simp at lead
    · rw [Option.mem_toList] at lead
      exact isName_of_firstComponent? (whole first (by simp)) lead
  · exact isName_of_innerComponent? (whole piece (by simp [later])) named

theorem isName_of_mem_names {path : Path} {bytes : Bytes} (member : bytes ∈ path.names) :
    IsName bytes := by
  rcases List.mem_filterMap.mp member with ⟨part, listed, isName⟩
  cases part with
  | name other =>
    cases isName
    exact isName_of_mem_components listed
  | root => cases isName
  | here => cases isName
  | up => cases isName

/-- The path that names spell. -/
def ofNames (names : List Bytes) : Path := ⟨joinPieces names⟩

/-- Joining a relative path puts one separator between the two, which may be there already. -/
theorem join_bytes (path next : Path) (spelled : path.bytes ≠ [])
    (relative : next.isAbsolute = false) :
    (∃ before, path.bytes = before ++ [separator] ∧
        (path.join next).bytes = before ++ separator :: next.bytes) ∨
      (path.join next).bytes = path.bytes ++ separator :: next.bytes := by
  have split := (List.dropLast_concat_getLast spelled).symm
  have last : path.bytes.getLast? = some (path.bytes.getLast spelled) :=
    List.getLast?_eq_some_getLast spelled
  by_cases ends : path.bytes.getLast spelled = separator
  · rw [ends] at split last
    refine Or.inl ⟨path.bytes.dropLast, split, ?_⟩
    have joined : (path.join next).bytes = path.bytes ++ next.bytes := by
      simp [join, relative, last]
    rw [joined, ← List.singleton_append, ← List.append_assoc, ← split]
  · refine Or.inr ?_
    simp [join, relative, last, ends]

theorem join_ne_nil {path : Path} (spelled : path.bytes ≠ []) (next : Path) :
    (path.join next).bytes ≠ [] := by
  cases relative : next.isAbsolute with
  | false =>
    rcases join_bytes path next spelled relative with ⟨before, _, joined⟩ | joined <;> simp [joined]
  | true =>
    rw [join, if_pos relative]
    intro nothing
    simp [isAbsolute, nothing] at relative

theorem isPrefix_join (path next : Path) (spelled : path.bytes ≠ [])
    (relative : next.isAbsolute = false) : path.bytes <+: (path.join next).bytes := by
  rcases join_bytes path next spelled relative with ⟨before, ends, joined⟩ | joined
  · rw [joined, ends]
    exact ⟨next.bytes, by simp⟩
  · rw [joined]
    exact List.prefix_append _ _

section

variable {names : List Bytes} (some : names ≠ []) (areNames : ∀ name ∈ names, IsName name)

include some areNames

theorem pieces_ofNames : pieces (ofNames names).bytes = names :=
  pieces_joinPieces some fun name member => (areNames name member).whole

theorem isAbsolute_ofNames : (ofNames names).isAbsolute = false := by
  cases names with
  | nil => exact absurd rfl some
  | cons first rest =>
    have isName := areNames first (by simp)
    rcases List.exists_cons_of_ne_nil isName.ne_nil with ⟨byte, others, spelled⟩
    have noSeparator : byte ≠ separator := by
      rintro rfl
      exact isName.whole (by simp [spelled])
    cases rest with
    | nil => simp [isAbsolute, ofNames, spelled, noSeparator]
    | cons second rest => simp [isAbsolute, ofNames, joinPieces_cons_cons, spelled, noSeparator]

theorem components_ofNames : (ofNames names).components = names.map .name := by
  unfold components
  rw [pieces_ofNames some areNames, isAbsolute_ofNames some areNames]
  cases names with
  | nil => exact absurd rfl some
  | cons first rest =>
    rcases List.forall_mem_cons.mp areNames with ⟨firstName, restNames⟩
    have inner : rest.filterMap innerComponent? = rest.map .name := by
      clear some areNames
      induction rest with
      | nil => rfl
      | cons name rest ih =>
        rcases List.forall_mem_cons.mp restNames with ⟨isName, others⟩
        simp [isName.innerComponent?, ih others]
    simp [firstName.firstComponent?, inner]

theorem steps_ofNames : (ofNames names).steps = names.map .name := by
  rw [steps, pieces_ofNames some areNames]
  exact List.map_congr_left fun name member => (areNames name member).step

/-- Names put after a path are walked after it; a separator at its end makes no difference but that it
asks to stay. -/
theorem steps_join_ofNames (root : Path) (spelled : root.bytes ≠ []) :
    ∃ lead, (root.join (ofNames names)).steps = lead ++ names.map .name ∧
      (root.steps = lead ∨ root.steps = lead ++ [.stay]) := by
  have relative := isAbsolute_ofNames some areNames
  rw [← steps_ofNames some areNames]
  rcases join_bytes root (ofNames names) spelled relative with
    ⟨before, ends, joined⟩ | joined
  · refine ⟨(pieces before).map Step.ofPiece, ?_, Or.inr ?_⟩
    · rw [steps, steps, joined, pieces_append_separator, List.map_append]
    · rw [steps, ends, pieces_append_separator, List.map_append]
      rfl
  · refine ⟨root.steps, ?_, Or.inl rfl⟩
    rw [steps, steps, steps, joined, pieces_append_separator, List.map_append]

end

/-! ## Pages -/

/-- Only the last name of a page differs from the names of its file. -/
theorem isName_of_mem_pageNames {names : List Bytes} (areNames : ∀ name ∈ names, IsName name)
    {name : Bytes} (member : name ∈ pageNames names) : IsName name := by
  induction names with
  | nil =>
    simp only [pageNames, List.mem_singleton] at member
    subst member
    exact ⟨by decide, by decide, by decide, by decide⟩
  | cons first rest ih =>
    rcases List.forall_mem_cons.mp areNames with ⟨isName, others⟩
    cases rest with
    | nil =>
      simp only [pageNames, List.mem_singleton] at member
      subst member
      have longer : 5 < (first ++ pageSuffix).length := by
        have := List.length_pos_iff.mpr isName.ne_nil
        have : pageSuffix.length = 5 := by decide
        simp only [List.length_append]
        omega
      refine ⟨?_, ?_, ?_, ?_⟩
      · intro same
        simp [same] at longer
      · intro same
        simp [same] at longer
      · intro same
        simp [same] at longer
      · have suffixWhole : separator ∉ pageSuffix := by decide
        simp [isName.whole, suffixWhole]
    | cons second rest =>
      simp only [pageNames, List.mem_cons] at member
      rcases member with rfl | member
      · exact isName
      · exact ih others member

/-- The last name gets the ending of pages, and without a name there is only the ending. -/
theorem pageNames_eq (names : List Bytes) :
    pageNames names = names.dropLast ++ [names.getLast?.getD [] ++ pageSuffix] := by
  fun_induction pageNames names with
  | case1 => rfl
  | case2 last => rfl
  | case3 first rest more ih =>
    rcases List.exists_cons_of_ne_nil more with ⟨second, others, rfl⟩
    rw [ih, List.dropLast_cons_cons, List.getLast?_cons_cons, List.cons_append]

theorem pageNames_ne_nil (names : List Bytes) : pageNames names ≠ [] := by
  rw [pageNames_eq]
  exact List.append_ne_nil_of_right_ne_nil _ (List.cons_ne_nil _ [])

/-- The names of the page of a file. -/
def namesOfPage (path : Path) : List Bytes := pageNames path.names

theorem page_eq_ofNames (path : Path) : path.page = ofNames path.namesOfPage := rfl

theorem namesOfPage_ne_nil (path : Path) : path.namesOfPage ≠ [] :=
  pageNames_ne_nil path.names

theorem isName_of_mem_namesOfPage (path : Path) :
    ∀ name ∈ path.namesOfPage, IsName name := fun _ member =>
  isName_of_mem_pageNames (fun _ listed => isName_of_mem_names listed) member

theorem components_page (path : Path) : path.page.components = path.namesOfPage.map .name :=
  components_ofNames path.namesOfPage_ne_nil path.isName_of_mem_namesOfPage

end Path

end Marginalia
