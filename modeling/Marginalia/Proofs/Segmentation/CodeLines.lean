import Mathlib.Data.List.Infix
import Marginalia.Proofs.Segmentation.Columns
import Marginalia.Proofs.Text.Lines
import Marginalia.Segmenter

/-!
# Reading the code back

The lines of code of a source can be looked for in its sections: each code text is split at its line
feeds, and an empty one has no lines.  This finds every line of code in order, blank lines included, with
one exception.  A section holds a joined text, and joining one empty line gives the same empty text as
joining none.

Which lines are lost can be said without sections.  The lines of code form *stretches*, cut by the lines
that are not code, and a section holds one stretch at most.  So a line is lost exactly when it is empty and
a stretch of its own.
-/

namespace Marginalia

/-- The lines of code that can be read off sections. -/
def readCode (sections : List Section) : List Text :=
  sections.flatMap fun part => if part.code = [] then [] else part.code.splitOn '\n'

namespace CommentSyntax

/-- The lines that are code, in order. -/
def codeLines (markers : CommentSyntax) (lines : List Text) : List Text :=
  ((markers.classified lines).filter fun line => line.1 = .code).map Prod.snd

/-- The stretches of consecutive lines of code, empty ones included: one between any two lines that are not
code, one before the first of these and one after the last. -/
def codeStretches (markers : CommentSyntax) (lines : List Text) : List (List Text) :=
  ((markers.classified lines).splitOnP fun line => line.1 ≠ .code).map (·.map Prod.snd)

end CommentSyntax

/-! ## Stretches -/

/-- An item that does not separate goes to the last part. -/
theorem splitOnP_append_singleton {α : Type} (separates : α → Bool) (items : List α) {item : α}
    (inside : separates item = false) :
    ∃ before last, items.splitOnP separates = before ++ [last] ∧
      (items ++ [item]).splitOnP separates = before ++ [last ++ [item]] := by
  induction items with
  | nil => exact ⟨[], [], rfl, List.splitOnP_eq_singleton (by simpa using inside)⟩
  | cons first rest ih =>
    rcases ih with ⟨before, last, old, new⟩
    rw [List.cons_append, List.splitOnP_cons_eq_if_modifyHead, List.splitOnP_cons_eq_if_modifyHead,
      old, new]
    by_cases cuts : separates first = true
    · rw [if_pos cuts, if_pos cuts]
      exact ⟨[] :: before, last, rfl, rfl⟩
    · rw [if_neg cuts, if_neg cuts]
      cases before with
      | nil => exact ⟨[], first :: last, rfl, rfl⟩
      | cons part before => exact ⟨(first :: part) :: before, last, rfl, rfl⟩

namespace CommentSyntax

variable (markers : CommentSyntax) (lines : List Text) (line : Text)

/-- A line that is not code ends a stretch, and the next one begins. -/
theorem codeStretches_append_prose
    (prose : markers.classify (markers.contextAfter .outside lines) line ≠ .code) :
    markers.codeStretches (lines ++ [line]) = markers.codeStretches lines ++ [[]] := by
  unfold codeStretches
  rw [classified_append_singleton, List.splitOnP_append_cons _ _ (by simpa using prose),
    List.splitOnP_nil, List.map_append]
  rfl

/-- A line of code makes the last stretch longer. -/
theorem codeStretches_append_code
    (code : markers.classify (markers.contextAfter .outside lines) line = .code) :
    ∃ before last, markers.codeStretches lines = before ++ [last] ∧
      markers.codeStretches (lines ++ [line]) = before ++ [last ++ [line]] := by
  unfold codeStretches
  rw [classified_append_singleton, code]
  have inside : decide ((LineKind.code, line).1 ≠ .code) = false := by simp
  rcases splitOnP_append_singleton (fun line => decide (line.1 ≠ LineKind.code))
    (markers.classified lines) inside with ⟨before, last, old, new⟩
  refine ⟨before.map (·.map Prod.snd), last.map Prod.snd, ?_, ?_⟩
  · rw [old, List.map_append, List.map_singleton]
  · rw [new, List.map_append, List.map_singleton, List.map_append, List.map_singleton]

theorem flatten_codeStretches :
    (markers.codeStretches lines).flatten = markers.codeLines lines := by
  induction lines using List.reverseRecOn with
  | nil => rfl
  | append_singleton lines line ih =>
    unfold codeLines at ih ⊢
    rw [classified_append_singleton, List.filter_append, List.map_append, ← ih]
    by_cases code : markers.classify (markers.contextAfter .outside lines) line = .code
    · rcases markers.codeStretches_append_code lines line code with ⟨before, last, old, new⟩
      simp [old, new, code]
    · simp [markers.codeStretches_append_prose lines line code, code]

end CommentSyntax

/-! ## Drafts and stretches -/

namespace Segmentation

/-- A cut moves the code of the current draft, and drops it only if there is none. -/
theorem code_cut (state : Segmentation) :
    (state.cut.drafts.map Draft.code).filter (· ≠ []) =
      (state.drafts.map Draft.code).filter (· ≠ []) := by
  unfold cut
  by_cases empty : state.current.isEmpty = true
  · rw [if_pos empty]
  · rw [if_neg empty]
    simp [drafts, List.filter_cons]

theorem code_opened (state : Segmentation) (kind : LineKind) :
    ((state.opened kind).drafts.map Draft.code).filter (· ≠ []) =
      (state.drafts.map Draft.code).filter (· ≠ []) := by
  unfold opened
  by_cases begins : kind.Begins state.previous
  · rw [if_pos begins, code_cut]
  · rw [if_neg begins]

/-- The code of the drafts are the stretches, up to empty ones.  The current draft holds the stretch that
may go on. -/
theorem codeStretches_eq (markers : CommentSyntax) (lines : List Text) :
    ∃ before, markers.codeStretches lines = before ++ [(ofLines markers lines).current.code] ∧
      before.filter (· ≠ []) =
        ((ofLines markers lines).finished.map Draft.code).filter (· ≠ []) := by
  induction lines using List.reverseRecOn with
  | nil => exact ⟨[], rfl, rfl⟩
  | append_singleton lines line ih =>
    rcases ih with ⟨before, stretches, finished⟩
    have coherent := coherent_ofLines markers lines
    have context := context_ofLines markers lines
    rw [ofLines_append_singleton]
    by_cases code : markers.classify (ofLines markers lines).context line = .code
    · rcases markers.codeStretches_append_code lines line (context ▸ code) with
        ⟨before', last, old, new⟩
      rcases List.append_inj' (old.symm.trans stretches) rfl with ⟨rfl, sameLast⟩
      cases sameLast
      refine ⟨before', ?_, ?_⟩
      · rw [new, step_eq, code]
        rfl
      · rw [finished, step_eq, code]
        rfl
    · have noCode := coherent.opened_code line code
      refine ⟨before ++ [(ofLines markers lines).current.code], ?_, ?_⟩
      · rw [markers.codeStretches_append_prose lines line (context ▸ code), stretches,
          (coherent.step_current line code).1]
      · have opened := code_opened (ofLines markers lines)
          (markers.classify (ofLines markers lines).context line)
        simp only [drafts, List.map_append, List.filter_append, List.map_singleton, noCode] at opened
        rw [step_eq, List.filter_append, finished, ← opened]
        simp

/-- The drafts hold the stretches, in order, and may differ in empty ones only. -/
theorem filter_codeStretches (markers : CommentSyntax) (lines : List Text) :
    (markers.codeStretches lines).filter (· ≠ []) =
      ((ofLines markers lines).drafts.map Draft.code).filter (· ≠ []) := by
  rcases codeStretches_eq markers lines with ⟨before, stretches, finished⟩
  rw [stretches, List.filter_append, finished, drafts, List.map_append, List.filter_append]
  rfl

/-- Every line of code of a draft is a line that was read. -/
theorem mem_lines_of_mem_code {markers : CommentSyntax} {lines : List Text} {draft : Draft}
    (isDraft : draft ∈ (ofLines markers lines).drafts) {line : Text} (member : line ∈ draft.code) :
    line ∈ lines := by
  have held : draft.code ∈ (markers.codeStretches lines).filter (· ≠ []) := by
    rw [filter_codeStretches]
    refine List.mem_filter.mpr ⟨List.mem_map_of_mem isDraft, ?_⟩
    simpa using List.ne_nil_of_mem member
  have isCode : line ∈ markers.codeLines lines := by
    rw [← markers.flatten_codeStretches]
    exact List.mem_flatten.mpr ⟨draft.code, List.mem_of_mem_filter held, member⟩
  rcases List.mem_map.mp isCode with ⟨⟨kind, _⟩, classified, rfl⟩
  exact (List.of_mem_zip (List.mem_of_mem_filter classified)).2

end Segmentation

/-! ## What is read -/

/-- The lines of code of a draft are read back from its section, unless they are one empty line: no other lines
are joined to the empty text. -/
theorem readCode_toSection (draft : Draft) (whole : ∀ line ∈ draft.code, '\n' ∉ line) :
    readCode [draft.toSection] = if draft.code = [[]] then [] else draft.code := by
  unfold readCode Draft.toSection
  rw [List.flatMap_singleton]
  cases code : draft.code with
  | nil => rfl
  | cons line rest =>
    rw [code] at whole
    have split : (Text.joinLines (line :: rest)).splitOn '\n' = line :: rest :=
      List.splitOn_intercalate '\n' whole (List.cons_ne_nil line rest)
    have empty : Text.joinLines (line :: rest) = [] ↔ line :: rest = [[]] := by
      constructor
      · intro isEmpty
        rw [isEmpty, List.splitOn_nil] at split
        exact split.symm
      · intro isBlank
        rw [isBlank]
        rfl
    by_cases isBlank : line :: rest = [[]]
    · rw [if_pos (empty.mpr isBlank), if_pos isBlank]
    · rw [if_neg (fun isEmpty => isBlank (empty.mp isEmpty)), if_neg isBlank, split]

theorem readCode_cons (part : Section) (rest : List Section) :
    readCode (part :: rest) = readCode [part] ++ readCode rest := by
  simp [readCode]

theorem readCode_map_toSection (drafts : List Draft)
    (whole : ∀ draft ∈ drafts, ∀ line ∈ draft.code, '\n' ∉ line) :
    readCode (drafts.map Draft.toSection) =
      ((drafts.map Draft.code).filter (· ≠ [[]])).flatten := by
  induction drafts with
  | nil => rfl
  | cons draft rest ih =>
    rcases List.forall_mem_cons.mp whole with ⟨first, others⟩
    rw [List.map_cons, readCode_cons, readCode_toSection draft first, ih others, List.map_cons,
      List.filter_cons]
    by_cases isBlank : draft.code = [[]]
    · simp [isBlank]
    · simp [isBlank]

/-- Stretches that are one empty line are missed in the length of what is read. -/
theorem length_flatten_filter (stretches : List (List Text)) :
    (stretches.filter (· ≠ [[]])).flatten.length + stretches.count [[]] =
      stretches.flatten.length := by
  induction stretches with
  | nil => rfl
  | cons stretch rest ih =>
    by_cases isBlank : stretch = [[]]
    · simp [isBlank, ← ih]
      omega
    · simp [isBlank, ← ih]
      omega

theorem flatten_filter_congr {first second : List (List Text)}
    (same : first.filter (· ≠ []) = second.filter (· ≠ [])) :
    (first.filter (· ≠ [[]])).flatten = (second.filter (· ≠ [[]])).flatten := by
  have withoutEmpty (stretches : List (List Text)) :
      (stretches.filter (· ≠ [[]])).flatten =
        ((stretches.filter (· ≠ [])).filter (· ≠ [[]])).flatten := by
    rw [List.filter_comm, List.flatten_filter_ne_nil]
  rw [withoutEmpty first, same, ← withoutEmpty second]

theorem CommentSyntax.readCode_sections (markers : CommentSyntax) (lines : List Text)
    (whole : ∀ line ∈ lines, '\n' ∉ line) :
    readCode (markers.sections lines) =
      ((markers.codeStretches lines).filter (· ≠ [[]])).flatten := by
  have wholeDrafts : ∀ draft ∈ (Segmentation.ofLines markers lines).drafts,
      ∀ line ∈ draft.code, '\n' ∉ line := by
    intro draft isDraft line member
    exact whole line (Segmentation.mem_lines_of_mem_code isDraft member)
  unfold sections
  rw [readCode_map_toSection _ wholeDrafts]
  exact flatten_filter_congr (Segmentation.filter_codeStretches markers lines).symm

/-- The code that is read off the sections of a source are its lines of code in order, without those that
are empty and a stretch of their own.  So nothing is missing exactly if there is no such line. -/
theorem Segmenter.readCode_segment (markers : CommentSyntax) (source : Text) :
    let segmenter : Segmenter := { markers := markers, prologue := .none }
    let stretches := markers.codeStretches source.lines
    readCode (segmenter.segment source) = (stretches.filter (· ≠ [[]])).flatten ∧
      stretches.flatten = markers.codeLines source.lines ∧
      (readCode (segmenter.segment source) = markers.codeLines source.lines ↔ [[]] ∉ stretches) := by
  intro segmenter stretches
  have read : readCode (segmenter.segment source) = (stretches.filter (· ≠ [[]])).flatten :=
    markers.readCode_sections source.lines fun _ => Text.lineFeed_not_mem_of_mem_lines
  have whole : stretches.flatten = markers.codeLines source.lines :=
    markers.flatten_codeStretches source.lines
  refine ⟨read, whole, ?_⟩
  rw [read, ← whole]
  constructor
  · intro same
    have length := length_flatten_filter stretches
    rw [same] at length
    exact List.count_eq_zero.mp (by omega)
  · intro absent
    rw [List.filter_eq_self.mpr]
    intro stretch member
    have notBlank : stretch ≠ [[]] := fun isBlank => absent (isBlank ▸ member)
    simpa using notBlank

/-- Two comments with an empty line between them, and a line of code. -/
def blankBetweenComments : Text := "// a\n\n// b\nx\n".toList

/-- The empty line is code, and is not read: its section is that of a comment without code. -/
theorem Segmenter.readCode_segment_blank :
    (Segmenter.mk .slashes .none).segment blankBetweenComments =
        [⟨"a".toList, []⟩, ⟨"b".toList, "x".toList⟩] ∧
      CommentSyntax.slashes.codeLines blankBetweenComments.lines = [[], "x".toList] ∧
      readCode ((Segmenter.mk .slashes .none).segment blankBetweenComments) ≠
        CommentSyntax.slashes.codeLines blankBetweenComments.lines := by
  decide

end Marginalia
