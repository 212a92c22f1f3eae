import Mathlib.Data.List.Chain
import Marginalia.Proofs.Segmentation.Columns
import Marginalia.Proofs.Text.Leads
import Marginalia.Proofs.Text.Lines
import Marginalia.Segmenter

/-!
# Manuscripts

A manuscript is a source before it is written down: a list of passages, each with its prose and its code,
and possibly code before the first of them.  It is written in the canonical way, with starred blocks and
double-slash lines and one blank between a marker and the prose.  Segmenting what was written gives the
passages back as sections.

Prose may be anything that fits on a line.  It may look like a marker, since the marker before it is taken
off only once, and it cannot close its block, since the closing line has nothing but the closer on it.  Code
may be anything that does not begin like a comment.  Only one thing has to be ruled out of the order of
passages: two runs of marked lines that touch are one run.
-/

namespace Marginalia

/-- A comment and the code that follows it. -/
inductive Passage where
  /-- A block: the text after its opener, the texts of its inner lines, and code. -/
  | block (opener : Text) (body code : List Text)
  /-- Marked lines, at least one, and code. -/
  | marked (first : Text) (more code : List Text)
  deriving DecidableEq, Repr

namespace Passage

/-- The prose, as it is before markers are put to it. -/
def prose : Passage → List Text
  | block opener body _ => opener :: body
  | marked first more _ => first :: more

def code : Passage → List Text
  | block _ _ code => code
  | marked _ _ code => code

def isMarked : Passage → Bool
  | block _ _ _ => false
  | marked _ _ _ => true

def openerLine (text : Text) : Text := "/**".toList ++ text

def bodyLine (text : Text) : Text := " * ".toList ++ text

def markedLine (text : Text) : Text := "// ".toList ++ text

/-- The lines that a passage is written in. -/
def lines : Passage → List Text
  | block opener body code =>
    openerLine opener :: (body.map bodyLine ++ " */".toList :: code)
  | marked first more code => markedLine first :: (more.map markedLine ++ code)

/-- What a passage is segmented into.  The line that closes a block is an empty line of prose. -/
def draft : Passage → Draft
  | block opener body code => { comment := opener :: (body ++ [[]]), code := code }
  | marked first more code => { comment := first :: more, code := code }

def lastKind (passage : Passage) : LineKind :=
  if passage.code ≠ [] then .code
  else if passage.isMarked then .lineComment
  else .blockClose

/-- Both passages are runs of marked lines and nothing stands between them. -/
def Touches (first second : Passage) : Prop :=
  first.isMarked = true ∧ first.code = [] ∧ second.isMarked = true
  deriving Decidable

end Passage

/-- Passages, and code before the first of them. -/
structure Manuscript where
  leading : List Text
  passages : List Passage
  deriving DecidableEq, Repr

namespace Manuscript

def lines (manuscript : Manuscript) : List Text :=
  manuscript.leading ++ manuscript.passages.flatMap Passage.lines

/-- The manuscript as a source: its lines, each ended by a line feed. -/
def source (manuscript : Manuscript) : Text :=
  Text.unlines manuscript.lines

/-- The drafts of a manuscript: one for leading code if there is any, and one for each passage. -/
def drafts (manuscript : Manuscript) : List Draft :=
  (if manuscript.leading = [] then [] else [{ comment := [], code := manuscript.leading }]) ++
    manuscript.passages.map Passage.draft

/-- The sections of a manuscript, with line feeds between the lines of each text. -/
def sections (manuscript : Manuscript) : List Section :=
  manuscript.drafts.map fun draft =>
    { comment := ['\n'].intercalate draft.comment, code := ['\n'].intercalate draft.code }

/-- A line that does not begin like a comment. -/
@[mk_iff]
structure PlainCode (line : Text) : Prop where
  notOpener : ¬ "/**".toList <+: line.trimStart
  notMarked : ¬ "//".toList <+: line.trimStart

instance (line : Text) : Decidable (PlainCode line) :=
  decidable_of_iff _ (plainCode_iff line).symm

/-- What a manuscript has to satisfy to be written and read back. -/
structure Canonical (manuscript : Manuscript) : Prop where
  nonempty : manuscript.leading ≠ [] ∨ manuscript.passages ≠ []
  leading_unbroken : ∀ line ∈ manuscript.leading, line.Unbroken
  prose_unbroken : ∀ passage ∈ manuscript.passages, ∀ text ∈ passage.prose, text.Unbroken
  code_unbroken : ∀ passage ∈ manuscript.passages, ∀ line ∈ passage.code, line.Unbroken
  leading_plain : ∀ line ∈ manuscript.leading, PlainCode line
  code_plain : ∀ passage ∈ manuscript.passages, ∀ line ∈ passage.code, PlainCode line
  apart : manuscript.passages.IsChain fun first second => ¬ first.Touches second

end Manuscript

/-! ## Canonical lines -/

namespace CommentSyntax

theorem classify_openerLine (text : Text) :
    slashes.classify .outside (Passage.openerLine text) = .blockOpen := by
  have opens : slashes.opensBlock (Passage.openerLine text) = true := by
    change (Text.dropLead? ("/**".toList ++ text) "/**".toList).isSome = true
    rw [Text.dropLead?_append]
    rfl
  rw [classify_outside, if_pos opens]

/-- A line written into a block does not close it: trimmed, it begins with a star and a blank, and the closer with
a star and a slash. -/
theorem classify_bodyLine (text : Text) :
    slashes.classify .inBlock (Passage.bodyLine text) = .blockBody := by
  have closes : slashes.closesBlock (Passage.bodyLine text) = false := by
    apply beq_eq_false_iff_ne.mpr
    intro isCloser
    have begins : (Passage.bodyLine text).trim <+: "* ".toList ++ text :=
      Text.trimEndWhile_isPrefix Text.isBlank _
    rcases isCloser ▸ begins with ⟨rest, same⟩
    simp at same
  rw [classify_inBlock, closes]
  rfl

theorem classify_closer : slashes.classify .inBlock " */".toList = .blockClose := by
  decide

theorem classify_markedLine (text : Text) :
    slashes.classify .outside (Passage.markedLine text) = .lineComment := by
  rfl

theorem classify_plain {line : Text} (plain : Manuscript.PlainCode line) :
    slashes.classify .outside line = .code := by
  have opens : slashes.opensBlock line = false := Text.startsWith_eq_false plain.notOpener
  have marks : slashes.marksLine line = false := Text.startsWith_eq_false plain.notMarked
  rw [classify_outside, opens, marks]
  rfl

theorem contribution_openerLine (text : Text) :
    slashes.contribution (.blockOpen, Passage.openerLine text) = .prose text := by
  change Contribution.prose ((Text.dropLead? ("/**".toList ++ text) "/**".toList).getD _) = _
  rw [Text.dropLead?_append]
  rfl

theorem contribution_bodyLine (text : Text) :
    slashes.contribution (.blockBody, Passage.bodyLine text) = .prose text := by
  rfl

theorem contribution_markedLine (text : Text) :
    slashes.contribution (.lineComment, Passage.markedLine text) = .prose text := by
  rfl

end CommentSyntax

/-! ## Reading a passage -/

namespace Draft

theorem foldl_add_prose (draft : Draft) (texts : List Text) :
    (texts.map .prose).foldl add draft = { draft with comment := draft.comment ++ texts } := by
  induction texts generalizing draft with
  | nil => simp
  | cons text rest ih =>
    rw [List.map_cons, List.foldl_cons, ih]
    simp [add, addComment]

theorem foldl_add_code (draft : Draft) (texts : List Text) :
    (texts.map .code).foldl add draft = { draft with code := draft.code ++ texts } := by
  induction texts generalizing draft with
  | nil => simp
  | cons text rest ih =>
    rw [List.map_cons, List.foldl_cons, ih]
    simp [add, addCode]

end Draft

namespace Segmentation

theorem step_of_joins {markers : CommentSyntax} {state : Segmentation} {kind : LineKind} {line : Text}
    {entry : Contribution} (isKind : markers.classify state.context line = kind)
    (contributes : markers.contribution (kind, line) = entry) (joins : ¬ kind.Begins state.previous) :
    state.step markers line =
      { context := state.context.after kind, previous := some kind, current := state.current.add entry,
        finished := state.finished } := by
  rw [step_eq, isKind, contributes, opened, if_neg joins]

/-- Lines of one kind that neither open nor close anything are collected in the draft at hand. -/
theorem foldl_step_of_joins {markers : CommentSyntax} {kind : LineKind} (write : Text → Text)
    (entry : Text → Contribution) (texts : List Text) (state : Segmentation)
    (isKind : ∀ text ∈ texts, markers.classify state.context (write text) = kind)
    (contributes : ∀ text, markers.contribution (kind, write text) = entry text)
    (stays : state.context.after kind = state.context) (joins : ¬ kind.Begins state.previous)
    (joinsItself : ¬ kind.Begins (some kind)) :
    (texts.map write).foldl (step markers) state =
      { context := state.context
        previous := if texts = [] then state.previous else some kind
        current := (texts.map entry).foldl Draft.add state.current
        finished := state.finished } := by
  induction texts generalizing state with
  | nil => rfl
  | cons text rest ih =>
    rcases List.forall_mem_cons.mp isKind with ⟨first, others⟩
    rw [List.map_cons, List.foldl_cons, step_of_joins first (contributes text) joins, stays, ih]
    · simp
    all_goals assumption

section Passages

variable (state : Segmentation) (outside : state.context = .outside)

include outside

theorem foldl_step_code {code : List Text} (plain : ∀ line ∈ code, Manuscript.PlainCode line) :
    code.foldl (step .slashes) state =
      { context := .outside
        previous := if code = [] then state.previous else some .code
        current := { state.current with code := state.current.code ++ code }
        finished := state.finished } := by
  have read := foldl_step_of_joins id .code code state
    (fun line member => outside ▸ CommentSyntax.classify_plain (plain line member)) (fun _ => rfl) rfl
    (by simp [LineKind.Begins]) (by simp [LineKind.Begins])
  rwa [List.map_id, outside, Draft.foldl_add_code] at read

theorem foldl_step_block (opener : Text) (body : List Text) {code : List Text}
    (plain : ∀ line ∈ code, Manuscript.PlainCode line) :
    (Passage.block opener body code).lines.foldl (step .slashes) state =
      { context := .outside
        previous := some (Passage.block opener body code).lastKind
        current := (Passage.block opener body code).draft
        finished := state.cut.finished } := by
  have opened := step_of_begins (outside ▸ CommentSyntax.classify_openerLine opener)
    (CommentSyntax.contribution_openerLine opener) (.inl rfl : LineKind.blockOpen.Begins state.previous)
  rw [Passage.lines, List.foldl_cons, opened, List.foldl_append, List.foldl_cons,
    foldl_step_of_joins Passage.bodyLine .prose body _
      (fun text _ => CommentSyntax.classify_bodyLine text) CommentSyntax.contribution_bodyLine rfl
      (by simp [LineKind.Begins]) (by simp [LineKind.Begins]),
    step_of_joins CommentSyntax.classify_closer rfl (by simp [LineKind.Begins]),
    foldl_step_code _ rfl plain, Draft.foldl_add_prose]
  cases code <;> rfl

theorem foldl_step_marked (first : Text) (more : List Text) {code : List Text}
    (plain : ∀ line ∈ code, Manuscript.PlainCode line) (apart : state.previous ≠ some .lineComment) :
    (Passage.marked first more code).lines.foldl (step .slashes) state =
      { context := .outside
        previous := some (Passage.marked first more code).lastKind
        current := (Passage.marked first more code).draft
        finished := state.cut.finished } := by
  have opened := step_of_begins (outside ▸ CommentSyntax.classify_markedLine first)
    (CommentSyntax.contribution_markedLine first) (.inr ⟨rfl, apart⟩)
  rw [Passage.lines, List.foldl_cons, opened, outside, List.foldl_append,
    foldl_step_of_joins Passage.markedLine .prose more _
      (fun text _ => CommentSyntax.classify_markedLine text) CommentSyntax.contribution_markedLine rfl
      (by simp [LineKind.Begins]) (by simp [LineKind.Begins]),
    foldl_step_code _ rfl plain, Draft.foldl_add_prose]
  cases code <;> cases more <;> rfl

/-- A passage finishes the draft before it and becomes the draft at hand.  A run of marked lines must not
follow another one directly. -/
theorem foldl_step_passage (passage : Passage)
    (plain : ∀ line ∈ passage.code, Manuscript.PlainCode line)
    (apart : passage.isMarked = true → state.previous ≠ some .lineComment) :
    passage.lines.foldl (step .slashes) state =
      { context := .outside
        previous := some passage.lastKind
        current := passage.draft
        finished := state.cut.finished } := by
  cases passage with
  | block opener body code => exact foldl_step_block state outside opener body plain
  | marked first more code => exact foldl_step_marked state outside first more plain (apart rfl)

end Passages

end Segmentation

namespace Passage

/-- Markers put before a text break no line. -/
theorem unbroken (passage : Passage) (prose : ∀ text ∈ passage.prose, text.Unbroken)
    (code : ∀ line ∈ passage.code, line.Unbroken) : ∀ line ∈ passage.lines, line.Unbroken := by
  cases passage with
  | block opener body lines =>
    rcases List.forall_mem_cons.mp prose with ⟨first, others⟩
    refine List.forall_mem_cons.mpr ⟨.append (by decide) first, ?_⟩
    refine List.forall_mem_append.mpr ⟨?_, List.forall_mem_cons.mpr ⟨by decide, code⟩⟩
    exact List.forall_mem_map.mpr fun text member => .append (by decide) (others text member)
  | marked start more lines =>
    rcases List.forall_mem_cons.mp prose with ⟨first, others⟩
    refine List.forall_mem_cons.mpr ⟨.append (by decide) first, ?_⟩
    refine List.forall_mem_append.mpr ⟨?_, code⟩
    exact List.forall_mem_map.mpr fun text member => .append (by decide) (others text member)

theorem draft_comment_ne_nil (passage : Passage) : passage.draft.comment ≠ [] := by
  cases passage <;> exact List.cons_ne_nil _ _

/-- The next passage may be marked unless it touches this one. -/
theorem lastKind_ne_lineComment {first second : Passage} (apart : ¬ first.Touches second)
    (marked : second.isMarked = true) : some first.lastKind ≠ some .lineComment := by
  unfold lastKind
  by_cases noCode : first.code = []
  · have notMarked : ¬ first.isMarked = true := fun isMarked => apart ⟨isMarked, noCode, marked⟩
    simp [noCode, notMarked]
  · simp [noCode]

end Passage

namespace Segmentation

/-- Passages are finished one after the other.  What stands before the next passage is the last line of the one
that was finished. -/
theorem finished_foldl_step_passages (passages : List Passage) (state : Segmentation)
    (outside : state.context = .outside)
    (plain : ∀ passage ∈ passages, ∀ line ∈ passage.code, Manuscript.PlainCode line)
    (apart : passages.IsChain fun first second => ¬ first.Touches second)
    (apartFirst : ∀ passage ∈ passages.head?,
      passage.isMarked = true → state.previous ≠ some .lineComment) :
    ((passages.flatMap Passage.lines).foldl (step .slashes) state).cut.finished =
      state.cut.finished ++ passages.map Passage.draft := by
  induction passages generalizing state with
  | nil => simp
  | cons passage rest ih =>
    rcases List.forall_mem_cons.mp plain with ⟨first, others⟩
    rw [List.flatMap_cons, List.foldl_append,
      foldl_step_passage state outside passage first (apartFirst passage rfl),
      ih _ rfl others apart.tail]
    · rw [finished_cut (Or.inl passage.draft_comment_ne_nil)]
      simp [drafts]
    · intro next isNext
      cases rest with
      | nil => cases isNext
      | cons second more =>
        cases isNext
        exact Passage.lastKind_ne_lineComment (List.isChain_cons_cons.mp apart).1

end Segmentation

/-! ## Reading a manuscript -/

namespace Manuscript

variable {manuscript : Manuscript}

theorem Canonical.lines_ne_nil (canonical : manuscript.Canonical) : manuscript.lines ≠ [] := by
  intro noLines
  rcases List.append_eq_nil_iff.mp noLines with ⟨noLeading, noPassageLines⟩
  rcases canonical.nonempty with leading | passages
  · exact leading noLeading
  · rcases List.exists_mem_of_ne_nil _ passages with ⟨passage, member⟩
    have written : passage.lines = [] := List.flatMap_eq_nil_iff.mp noPassageLines passage member
    cases passage <;> cases written

theorem Canonical.unbroken (canonical : manuscript.Canonical) :
    ∀ line ∈ manuscript.lines, line.Unbroken := by
  intro line member
  rcases List.mem_append.mp member with leading | inPassage
  · exact canonical.leading_unbroken line leading
  · rcases List.mem_flatMap.mp inPassage with ⟨passage, isPassage, written⟩
    exact passage.unbroken (canonical.prose_unbroken passage isPassage)
      (canonical.code_unbroken passage isPassage) line written

/-- What was written is read draft by draft.  Before the first passage stands code or nothing, so that it touches
nothing either. -/
theorem Canonical.drafts_eq (canonical : manuscript.Canonical) :
    (Segmentation.ofLines .slashes manuscript.lines).drafts = manuscript.drafts := by
  have read := Segmentation.current_nonempty_ofLines .slashes canonical.lines_ne_nil
  rw [← Segmentation.finished_cut read, Segmentation.ofLines, lines, List.foldl_append,
    Segmentation.foldl_step_code .start rfl canonical.leading_plain,
    Segmentation.finished_foldl_step_passages _ _ rfl canonical.code_plain canonical.apart]
  · rw [drafts]
    cases manuscript.leading <;> rfl
  · intro passage _ _
    cases manuscript.leading <;> simp [Segmentation.start]

/-- What was written in the canonical way is read back. -/
theorem segment_source (manuscript : Manuscript) (canonical : manuscript.Canonical) :
    (Segmenter.mk .slashes .none).segment manuscript.source = manuscript.sections := by
  have lines_eq : (Prologue.none.strip manuscript.source).lines = manuscript.lines :=
    Text.lines_unlines canonical.unbroken
  rw [Segmenter.segment, lines_eq, CommentSyntax.sections, canonical.drafts_eq]
  rfl

/-- Leading code with a blank line, a block whose prose looks like a closer, an opener and a marker, two
runs that only an empty line keeps apart, and a block right after a run. -/
def mixed : Manuscript where
  leading := ["use x;".toList, []]
  passages :=
    [.block " a".toList ["/".toList, "*/".toList, [], "/** b".toList] ["/* c */".toList, [' ', '\t']],
      .marked "// d".toList [[]] [[]],
      .marked [] [] [],
      .block [] [] []]

theorem mixed_canonical : mixed.Canonical where
  nonempty := by decide
  leading_unbroken := by decide
  prose_unbroken := by decide
  code_unbroken := by decide
  leading_plain := by decide
  code_plain := by decide
  apart := by decide

theorem segment_source_mixed :
    mixed.Canonical ∧
      (Segmenter.mk .slashes .none).segment mixed.source =
        [⟨[], "use x;\n".toList⟩, ⟨" a\n/\n*/\n\n/** b\n".toList, "/* c */\n \t".toList⟩,
          ⟨"// d\n".toList, []⟩, ⟨[], []⟩, ⟨"\n".toList, []⟩] :=
  ⟨mixed_canonical, segment_source mixed mixed_canonical⟩

end Manuscript

end Marginalia
