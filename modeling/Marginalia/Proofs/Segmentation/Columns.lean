import Mathlib.Data.List.Induction
import Marginalia.Section

/-!
# The two columns of a segmentation

A segmentation sends each line to one of two buffers, the prose and the code of the current draft, and
joins them only at the end.  Two buffers can lose the order in which they were filled.  That they do not
is a matter of *when* prose may be added: a draft that holds code takes no further prose.

This is stated twice.  `Segmentation.Coherent` is the invariant of the buffers, the context and the
previous kind; every step restores it.  `CommentSyntax.contributions` says, without buffers, what each
line adds, and the drafts read one after the other are exactly that list.  Nothing here says where one
draft ends and the next begins; `Marginalia.Proofs.Segmentation.Slices` does.
-/

namespace Marginalia

/-! ## What a line contributes -/

/-- What a line adds to a section. -/
inductive Contribution where
  | prose (text : Text)
  | code (text : Text)
  deriving DecidableEq, Repr

namespace Contribution

def prose? : Contribution → Option Text
  | prose text => some text
  | code _ => none

def code? : Contribution → Option Text
  | prose _ => none
  | code text => some text

end Contribution

namespace Draft

def add (draft : Draft) : Contribution → Draft
  | .prose line => draft.addComment line
  | .code line => draft.addCode line

/-- A draft as a list: its prose, then its code. -/
def contributions (draft : Draft) : List Contribution :=
  draft.comment.map .prose ++ draft.code.map .code

/-- A contribution comes last in a draft, unless it is prose after code. -/
theorem contributions_add (draft : Draft) (contribution : Contribution)
    (inOrder : contribution.prose?.isSome = true → draft.code = []) :
    (draft.add contribution).contributions = draft.contributions ++ [contribution] := by
  cases contribution with
  | prose line => simp [contributions, add, addComment, inOrder rfl]
  | code line => simp [contributions, add, addCode]

theorem add_nonempty (draft : Draft) (contribution : Contribution) :
    (draft.add contribution).comment ≠ [] ∨ (draft.add contribution).code ≠ [] := by
  cases contribution <;> simp [add, addComment, addCode]

theorem isEmpty_iff (draft : Draft) : draft.isEmpty = true ↔ draft = {} := by
  cases draft
  simp [isEmpty]

end Draft

namespace CommentSyntax

/-- What a line of the given kind contributes.  The line that closes a block leaves an empty line. -/
def contribution (markers : CommentSyntax) : LineKind × Text → Contribution
  | (.blockOpen, line) => .prose (markers.stripOpener line)
  | (.blockBody, line) => .prose (markers.stripBody line)
  | (.blockClose, _) => .prose []
  | (.lineComment, line) => .prose (markers.stripLine line)
  | (.code, line) => .code line

/-- The kinds of consecutive lines, the first of which is read in the given context. -/
def kinds (markers : CommentSyntax) : Context → List Text → List LineKind
  | _, [] => []
  | context, line :: rest =>
    let kind := markers.classify context line
    kind :: markers.kinds (context.after kind) rest

def contextAfter (markers : CommentSyntax) (context : Context) (lines : List Text) : Context :=
  lines.foldl (fun context line => context.after (markers.classify context line)) context

def classified (markers : CommentSyntax) (lines : List Text) : List (LineKind × Text) :=
  (markers.kinds .outside lines).zip lines

/-- What consecutive lines contribute, one contribution for each line. -/
def contributions (markers : CommentSyntax) (lines : List Text) : List Contribution :=
  (markers.classified lines).map markers.contribution

@[simp] theorem length_kinds (markers : CommentSyntax) (context : Context) (lines : List Text) :
    (markers.kinds context lines).length = lines.length := by
  induction lines generalizing context with
  | nil => rfl
  | cons line rest ih => simp [kinds, ih]

@[simp] theorem length_classified (markers : CommentSyntax) (lines : List Text) :
    (markers.classified lines).length = lines.length := by
  simp [classified]

/-- A line added at the end is read in the context that the earlier ones leave. -/
theorem kinds_append_singleton (markers : CommentSyntax) (context : Context) (lines : List Text)
    (line : Text) :
    markers.kinds context (lines ++ [line]) =
      markers.kinds context lines ++
        [markers.classify (markers.contextAfter context lines) line] := by
  induction lines generalizing context with
  | nil => rfl
  | cons first rest ih =>
    simp only [List.cons_append, kinds, ih]
    rfl

theorem classified_append_singleton (markers : CommentSyntax) (lines : List Text) (line : Text) :
    markers.classified (lines ++ [line]) =
      markers.classified lines ++
        [(markers.classify (markers.contextAfter .outside lines) line, line)] := by
  unfold classified
  rw [kinds_append_singleton, List.zip_append (by simp)]
  rfl

theorem contributions_append_singleton (markers : CommentSyntax) (lines : List Text)
    (line : Text) :
    markers.contributions (lines ++ [line]) =
      markers.contributions lines ++
        [markers.contribution (markers.classify (markers.contextAfter .outside lines) line, line)] := by
  simp [contributions, classified_append_singleton]

theorem ne_code_of_prose {markers : CommentSyntax} {kind : LineKind} {line : Text}
    (prose : (markers.contribution (kind, line)).prose?.isSome = true) : kind ≠ .code := by
  rintro rfl
  cases prose

/-! ## The rules as a decision -/

theorem classify_eq_head_candidates (markers : CommentSyntax) (context : Context) (line : Text) :
    markers.classify context line = (markers.candidates context line).head?.getD .code := by
  rw [classify, candidates, List.head?_map, List.head?_filter]

/-- The row for code applies to every line, and inside a block the row for bodies applies to a closer too, so
that the order of the rows decides. -/
theorem candidates_inBlock (markers : CommentSyntax) (line : Text) :
    markers.candidates .inBlock line =
      (if markers.closesBlock line then [.blockClose] else []) ++
        ((if markers.block.isSome then [.blockBody] else []) ++ [.code]) := by
  cases closes : markers.closesBlock line <;> cases block : markers.block.isSome <;>
    simp [candidates, rules, closes, block]

/-- Outside a block a line can begin with both markers, if one of them begins with the other. -/
theorem candidates_outside (markers : CommentSyntax) (line : Text) :
    markers.candidates .outside line =
      (if markers.opensBlock line then [.blockOpen] else []) ++
        ((if markers.marksLine line then [.lineComment] else []) ++ [.code]) := by
  cases opens : markers.opensBlock line <;> cases marks : markers.marksLine line <;>
    simp [candidates, rules, opens, marks]

/-- Inside a block only its markers decide. -/
theorem classify_inBlock (markers : CommentSyntax) (line : Text) :
    markers.classify .inBlock line =
      if markers.closesBlock line then .blockClose
      else if markers.block.isSome then .blockBody
      else .code := by
  rw [classify_eq_head_candidates, candidates_inBlock]
  cases markers.closesBlock line <;> cases markers.block.isSome <;> rfl

/-- Outside a block an opener goes before a marked line. -/
theorem classify_outside (markers : CommentSyntax) (line : Text) :
    markers.classify .outside line =
      if markers.opensBlock line then .blockOpen
      else if markers.marksLine line then .lineComment
      else .code := by
  rw [classify_eq_head_candidates, candidates_outside]
  cases markers.opensBlock line <;> cases markers.marksLine line <;> rfl

/-- A line can only open or close a block in a syntax that has blocks. -/
theorem block_isSome_of_opensBlock {markers : CommentSyntax} {line : Text}
    (opens : markers.opensBlock line = true) : markers.block.isSome = true := by
  cases block : markers.block with
  | none => simp [opensBlock, block] at opens
  | some _ => rfl

/-- What the kind of a line says about where the line stands. -/
theorem classify_cases (markers : CommentSyntax) (context : Context) (line : Text) :
    match markers.classify context line with
    | .blockClose | .blockBody => context = .inBlock
    | .blockOpen => context = .outside ∧ markers.block.isSome = true
    | .lineComment => context = .outside
    | .code => context = .inBlock → markers.block = none := by
  cases context with
  | inBlock =>
    rw [classify_inBlock]
    cases markers.closesBlock line <;> cases markers.block <;> simp
  | outside =>
    rw [classify_outside]
    cases opens : markers.opensBlock line with
    | true => simpa using block_isSome_of_opensBlock opens
    | false => cases markers.marksLine line <;> simp

end CommentSyntax

/-! ## One step -/

/-- A line of this kind begins a section, given the kind of the line before it. -/
def LineKind.Begins (kind : LineKind) (previous : Option LineKind) : Prop :=
  kind = .blockOpen ∨ kind = .lineComment ∧ previous ≠ some .lineComment
  deriving Decidable

namespace Segmentation

/-- The segmentation that a line of the given kind is added to. -/
def opened (state : Segmentation) (kind : LineKind) : Segmentation :=
  if kind.Begins state.previous then state.cut else state

/-- What a step does: it may cut, and then it adds the contribution of its line. -/
theorem step_eq (markers : CommentSyntax) (state : Segmentation) (line : Text) :
    state.step markers line =
      { context := state.context.after (markers.classify state.context line)
        previous := some (markers.classify state.context line)
        current := (state.opened (markers.classify state.context line)).current.add
          (markers.contribution (markers.classify state.context line, line))
        finished := (state.opened (markers.classify state.context line)).finished } := by
  unfold step
  cases kind : markers.classify state.context line with
  | lineComment =>
    by_cases continues : state.previous = some .lineComment <;>
      simp [add, opened, LineKind.Begins, CommentSyntax.contribution, Draft.add, continues]
  | _ => simp [add, opened, LineKind.Begins, CommentSyntax.contribution, Draft.add]

/-- After a cut the current draft has no lines, whether or not there was one to finish. -/
@[simp] theorem cut_current (state : Segmentation) : state.cut.current = {} := by
  unfold cut
  by_cases empty : state.current.isEmpty = true
  · rw [if_pos empty]
    exact (Draft.isEmpty_iff state.current).mp empty
  · rw [if_neg empty]

/-- A line that begins a section finishes the draft before it, if that has a line. -/
theorem step_of_begins {markers : CommentSyntax} {state : Segmentation} {kind : LineKind} {line : Text}
    {entry : Contribution} (isKind : markers.classify state.context line = kind)
    (contributes : markers.contribution (kind, line) = entry) (begins : kind.Begins state.previous) :
    state.step markers line =
      { context := state.context.after kind, previous := some kind, current := Draft.add {} entry,
        finished := state.cut.finished } := by
  rw [step_eq, isKind, contributes, opened, if_pos begins, cut_current]

theorem finished_cut {state : Segmentation}
    (read : state.current.comment ≠ [] ∨ state.current.code ≠ []) : state.cut.finished = state.drafts := by
  have holds : state.current.isEmpty = false := by
    simp only [Draft.isEmpty, Bool.and_eq_false_iff, List.isEmpty_eq_false_iff]
    exact read
  rw [cut, holds]
  rfl

/-- A cut moves lines from the current draft to the finished ones and changes no line. -/
theorem contributions_cut (state : Segmentation) :
    state.cut.drafts.flatMap Draft.contributions = state.drafts.flatMap Draft.contributions := by
  unfold cut
  by_cases empty : state.current.isEmpty = true
  · rw [if_pos empty]
  · rw [if_neg empty]
    simp [drafts, Draft.contributions]

theorem contributions_opened (state : Segmentation) (kind : LineKind) :
    (state.opened kind).drafts.flatMap Draft.contributions =
      state.drafts.flatMap Draft.contributions := by
  unfold opened
  by_cases begins : kind.Begins state.previous
  · rw [if_pos begins, contributions_cut]
  · rw [if_neg begins]

/-! ## The invariant of the buffers -/

/-- How the buffers of a segmentation hang together with its context and with the previous line. -/
structure Coherent (markers : CommentSyntax) (state : Segmentation) : Prop where
  /-- An open block is still being collected, so no code has followed it. -/
  code_inBlock : state.context = .inBlock → state.current.code = []
  /-- A run of marked lines can go on only while no code has followed it. -/
  code_lineComment : state.previous = some .lineComment → state.current.code = []
  /-- Only a syntax with block markers opens a block. -/
  markers_inBlock : state.context = .inBlock → markers.block.isSome = true
  /-- The line that opened the block is in the draft. -/
  comment_inBlock : state.context = .inBlock → state.current.comment ≠ []
  /-- Once a line has been read, the draft holds a line. -/
  current_nonempty : state.previous ≠ none → state.current.comment ≠ [] ∨ state.current.code ≠ []

theorem coherent_start (markers : CommentSyntax) : Coherent markers start where
  code_inBlock := fun _ => rfl
  code_lineComment := fun _ => rfl
  markers_inBlock := by intro inBlock; cases inBlock
  comment_inBlock := by intro inBlock; cases inBlock
  current_nonempty := by intro read; exact absurd rfl read

variable {markers : CommentSyntax} {state : Segmentation}

/-- Prose is only ever added to a draft without code: either the line begins a section, or the line
before it left the draft without code.  Inside a block nothing is cut, so there the invariant itself has to
keep code out. -/
theorem Coherent.opened_code (coherent : Coherent markers state) (line : Text)
    (prose : markers.classify state.context line ≠ .code) :
    (state.opened (markers.classify state.context line)).current.code = [] := by
  have standing := markers.classify_cases state.context line
  unfold opened
  cases kind : markers.classify state.context line with
  | blockClose =>
    rw [kind] at standing
    simpa [LineKind.Begins] using coherent.code_inBlock standing
  | blockBody =>
    rw [kind] at standing
    simpa [LineKind.Begins] using coherent.code_inBlock standing
  | blockOpen => simp [LineKind.Begins]
  | lineComment =>
    by_cases continues : state.previous = some .lineComment
    · simpa [LineKind.Begins, continues] using coherent.code_lineComment continues
    · simp [LineKind.Begins, continues]
  | code => exact absurd kind prose

/-- An open block gives code another kind. -/
theorem Coherent.outside_of_code (coherent : Coherent markers state) {line : Text}
    (code : markers.classify state.context line = .code) : state.context = .outside := by
  have standing := markers.classify_cases state.context line
  rw [code] at standing
  cases context : state.context with
  | outside => rfl
  | inBlock =>
    have blocks := coherent.markers_inBlock context
    rw [standing context] at blocks
    cases blocks

/-- A line that is not code is added to the prose, and leaves the draft without code. -/
theorem Coherent.step_current (coherent : Coherent markers state) (line : Text)
    (prose : markers.classify state.context line ≠ .code) :
    (state.step markers line).current.code = [] ∧
      (state.step markers line).current.comment ≠ [] := by
  have noCode := coherent.opened_code line prose
  rw [step_eq]
  cases kind : markers.classify state.context line with
  | code => exact absurd kind prose
  | _ =>
    rw [kind] at noCode
    simp [CommentSyntax.contribution, Draft.add, Draft.addComment, noCode]

/-- Where a block is open after a line, the line was not code and the syntax has block markers. -/
theorem Coherent.inBlock_of_step (coherent : Coherent markers state) {line : Text}
    (inBlock : (state.step markers line).context = .inBlock) :
    markers.classify state.context line ≠ .code ∧ markers.block.isSome = true := by
  have standing := markers.classify_cases state.context line
  rw [step_eq] at inBlock
  cases kind : markers.classify state.context line with
  | blockClose => rw [kind] at inBlock; cases inBlock
  | blockBody =>
    rw [kind] at inBlock
    exact ⟨by simp, coherent.markers_inBlock inBlock⟩
  | blockOpen =>
    rw [kind] at standing
    exact ⟨by simp, standing.2⟩
  | lineComment =>
    rw [kind] at inBlock standing
    exact absurd (standing.symm.trans inBlock) (by simp)
  | code =>
    rw [kind] at inBlock
    exact absurd ((coherent.outside_of_code kind).symm.trans inBlock) (by simp)

/-- Every line restores the invariant. -/
theorem Coherent.step (coherent : Coherent markers state) (line : Text) :
    Coherent markers (state.step markers line) where
  code_inBlock := fun inBlock =>
    (coherent.step_current line (coherent.inBlock_of_step inBlock).1).1
  code_lineComment := by
    intro previous
    refine (coherent.step_current line ?_).1
    intro code
    rw [step_eq, code] at previous
    cases previous
  markers_inBlock := fun inBlock => (coherent.inBlock_of_step inBlock).2
  comment_inBlock := fun inBlock =>
    (coherent.step_current line (coherent.inBlock_of_step inBlock).1).2
  current_nonempty := by
    intro _
    rw [step_eq]
    exact Draft.add_nonempty _ _

/-- A step adds the contribution of its line after all others. -/
theorem Coherent.contributions_step (coherent : Coherent markers state) (line : Text) :
    (state.step markers line).drafts.flatMap Draft.contributions =
      state.drafts.flatMap Draft.contributions ++
        [markers.contribution (markers.classify state.context line, line)] := by
  have unchanged := contributions_opened state (markers.classify state.context line)
  have added := Draft.contributions_add
    (state.opened (markers.classify state.context line)).current
    (markers.contribution (markers.classify state.context line, line))
    (fun prose => coherent.opened_code line (CommentSyntax.ne_code_of_prose prose))
  rw [step_eq, ← unchanged]
  simp [drafts, added]

/-! ## Every run -/

theorem ofLines_append_singleton (markers : CommentSyntax) (lines : List Text) (line : Text) :
    ofLines markers (lines ++ [line]) = (ofLines markers lines).step markers line := by
  simp [ofLines]

/-- The context of a run is the one that classification threads through the lines. -/
theorem context_ofLines (markers : CommentSyntax) (lines : List Text) :
    (ofLines markers lines).context = markers.contextAfter .outside lines := by
  induction lines using List.reverseRecOn with
  | nil => rfl
  | append_singleton lines line ih =>
    rw [ofLines_append_singleton, step_eq, ih]
    simp [CommentSyntax.contextAfter]

theorem previous_ofLines (markers : CommentSyntax) (lines : List Text) :
    (ofLines markers lines).previous = (markers.kinds .outside lines).getLast? := by
  induction lines using List.reverseRecOn with
  | nil => rfl
  | append_singleton lines line _ =>
    rw [ofLines_append_singleton, step_eq, CommentSyntax.kinds_append_singleton, context_ofLines]
    simp

theorem coherent_ofLines (markers : CommentSyntax) (lines : List Text) :
    Coherent markers (ofLines markers lines) := by
  induction lines using List.reverseRecOn with
  | nil => exact coherent_start markers
  | append_singleton lines line ih =>
    rw [ofLines_append_singleton]
    exact ih.step line

theorem current_nonempty_ofLines (markers : CommentSyntax) {lines : List Text}
    (read : lines ≠ []) :
    (ofLines markers lines).current.comment ≠ [] ∨ (ofLines markers lines).current.code ≠ [] := by
  apply (coherent_ofLines markers lines).current_nonempty
  rw [previous_ofLines]
  intro none
  rw [List.getLast?_eq_none_iff, ← List.length_eq_zero_iff, CommentSyntax.length_kinds,
    List.length_eq_zero_iff] at none
  exact read none

/-- The drafts, read one after the other, are the contributions of the lines. -/
theorem contributions_ofLines (markers : CommentSyntax) (lines : List Text) :
    (ofLines markers lines).drafts.flatMap Draft.contributions = markers.contributions lines := by
  induction lines using List.reverseRecOn with
  | nil => rfl
  | append_singleton lines line ih =>
    rw [ofLines_append_singleton, (coherent_ofLines markers lines).contributions_step, ih,
      context_ofLines, CommentSyntax.contributions_append_singleton]

/--
No line is lost, doubled, moved or put in both columns.  In every reachable segmentation the code of the
current draft is empty while a block is open or a run of marked lines goes on, a block is open only in a
syntax that has blocks and only with its prose in the draft, and the draft holds a line as soon as one
has been read.  So the drafts behind the sections, each read as its prose followed by its code, make up
the contributions of all lines in order, one for each line.
-/
theorem drafts_keep_every_line (markers : CommentSyntax) (lines : List Text) :
    ((ofLines markers lines).context = .inBlock ∨
        (ofLines markers lines).previous = some .lineComment →
      (ofLines markers lines).current.code = []) ∧
    ((ofLines markers lines).context = .inBlock →
      markers.block.isSome = true ∧ (ofLines markers lines).current.comment ≠ []) ∧
    (lines ≠ [] →
      (ofLines markers lines).current.comment ≠ [] ∨ (ofLines markers lines).current.code ≠ []) ∧
    markers.sections lines = (ofLines markers lines).drafts.map Draft.toSection ∧
    (ofLines markers lines).drafts.flatMap Draft.contributions = markers.contributions lines ∧
    (markers.contributions lines).length = lines.length := by
  have coherent := coherent_ofLines markers lines
  refine ⟨?_, ?_, current_nonempty_ofLines markers, rfl, contributions_ofLines markers lines, ?_⟩
  · rintro (inBlock | continues)
    · exact coherent.code_inBlock inBlock
    · exact coherent.code_lineComment continues
  · exact fun inBlock => ⟨coherent.markers_inBlock inBlock, coherent.comment_inBlock inBlock⟩
  · simp [CommentSyntax.contributions]

/-- A block that is still open after a line of code: the code has been moved to a finished draft. -/
theorem drafts_keep_every_line_open_block :
    (ofLines .slashes ["x".toList, "/** a".toList]).context = .inBlock ∧
      (ofLines .slashes ["x".toList, "/** a".toList]).current.code = [] := by
  have inBlock : (ofLines .slashes ["x".toList, "/** a".toList]).context = .inBlock := by decide
  exact ⟨inBlock, (drafts_keep_every_line _ _).1 (Or.inl inBlock)⟩

end Segmentation

end Marginalia
