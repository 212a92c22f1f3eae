import Marginalia.Proofs.Segmentation.Columns
import Marginalia.Proofs.Text.Lines
import Marginalia.Segmenter

/-!
# Sources that go on

A source can be read up to a line feed and then continued.  Drafts that are finished have no influence on
later lines, so they can be taken out of a segmentation and put back afterwards: whatever follows, the
sections of the first part stay as they are, the last one excepted.

The last one stays as well where the continuation begins with a line that begins a section.  From that line
on the segmentation that has read the first part and the one that starts there differ in their finished
drafts only, although the first has a previous line and a draft at hand and the other has neither.  Without
the condition this fails: an open block or a run of marked lines reaches over the line feed.
-/

namespace Marginalia

namespace Segmentation

/-- The segmentation, with drafts that were finished before its own. -/
def after (state : Segmentation) (earlier : List Draft) : Segmentation :=
  { state with finished := earlier ++ state.finished }

variable (state : Segmentation) (earlier : List Draft) (markers : CommentSyntax)

theorem drafts_after : (state.after earlier).drafts = earlier ++ state.drafts :=
  List.append_assoc earlier state.finished [state.current]

theorem cut_after : (state.after earlier).cut = state.cut.after earlier := by
  unfold cut after
  by_cases empty : state.current.isEmpty = true
  · rw [if_pos empty, if_pos empty]
  · rw [if_neg empty, if_neg empty]
    simp

theorem opened_after (kind : LineKind) :
    (state.after earlier).opened kind = (state.opened kind).after earlier := by
  unfold opened
  by_cases begins : kind.Begins state.previous
  · rw [if_pos begins, if_pos (show kind.Begins (state.after earlier).previous from begins), cut_after]
  · rw [if_neg begins, if_neg (show ¬ kind.Begins (state.after earlier).previous from begins)]

/-- No step looks at the finished drafts. -/
theorem step_after (line : Text) :
    (state.after earlier).step markers line = (state.step markers line).after earlier := by
  have sameContext : (state.after earlier).context = state.context := rfl
  rw [step_eq, step_eq, sameContext, opened_after]
  rfl

theorem foldl_step_after (lines : List Text) :
    lines.foldl (step markers) (state.after earlier) =
      (lines.foldl (step markers) state).after earlier := by
  induction lines generalizing state with
  | nil => rfl
  | cons line rest ih => rw [List.foldl_cons, List.foldl_cons, step_after, ih]

/-- Finished drafts stay in front of what later lines add. -/
theorem drafts_foldl_step (lines : List Text) :
    (lines.foldl (step markers) state).drafts =
      state.finished ++ (lines.foldl (step markers) { state with finished := [] }).drafts := by
  have parted : state = after { state with finished := [] } state.finished := by simp [after]
  rw [← drafts_after, ← foldl_step_after, ← parted]

theorem ofLines_append (first second : List Text) :
    ofLines markers (first ++ second) = second.foldl (step markers) (ofLines markers first) :=
  List.foldl_append

/-- A line that begins a section makes a segmentation equal to a new one, the drafts aside. -/
theorem step_of_begins_anew {line : Text} (outside : state.context = .outside)
    (begins : (markers.classify .outside line).Begins state.previous)
    (read : state.current.comment ≠ [] ∨ state.current.code ≠ []) :
    state.step markers line = (start.step markers line).after state.drafts := by
  have beginsAnew : (markers.classify .outside line).Begins start.previous := by
    rcases begins with opens | marked
    · exact Or.inl opens
    · exact Or.inr ⟨marked.1, by simp [start]⟩
  rw [step_of_begins (congrArg (markers.classify · line) outside) rfl begins,
    step_of_begins rfl rfl beginsAnew, outside, finished_cut read]
  simp [after, start, cut, Draft.isEmpty]

end Segmentation

namespace CommentSyntax

variable (markers : CommentSyntax) (first second : List Text)

theorem dropLast_sections_isPrefix :
    (markers.sections first).dropLast <+: markers.sections (first ++ second) := by
  have finished : (markers.sections first).dropLast =
      (Segmentation.ofLines markers first).finished.map Draft.toSection := by
    simp [sections, Segmentation.drafts]
  rw [finished, sections, Segmentation.ofLines_append, Segmentation.drafts_foldl_step, List.map_append]
  exact List.prefix_append _ _

theorem sections_append {line : Text} (read : first ≠ [])
    (outside : markers.contextAfter .outside first = .outside)
    (begins : (markers.classify .outside line).Begins (markers.kinds .outside first).getLast?) :
    markers.sections (first ++ line :: second) =
      markers.sections first ++ markers.sections (line :: second) := by
  rw [← Segmentation.context_ofLines] at outside
  rw [← Segmentation.previous_ofLines] at begins
  have anew := Segmentation.step_of_begins_anew _ markers outside begins
    (Segmentation.current_nonempty_ofLines markers read)
  have together : (Segmentation.ofLines markers (first ++ line :: second)).drafts =
      (Segmentation.ofLines markers first).drafts ++
        (Segmentation.ofLines markers (line :: second)).drafts := by
    rw [Segmentation.ofLines_append, List.foldl_cons, anew, Segmentation.foldl_step_after,
      Segmentation.drafts_after]
    rfl
  rw [sections, together, List.map_append]
  rfl

end CommentSyntax

/--
A source that ends with a line feed can be continued.  Its sections, the last one excepted, are the first
sections of the whole.  If no block is open at its end and the continuation begins with a line that begins a
section there, then the two parts can be segmented apart.
-/
theorem Segmenter.segment_append (markers : CommentSyntax) (source more : Text)
    (ended : source.getLast? = some '\n') :
    let segmenter : Segmenter := { markers := markers, prologue := .none }
    (segmenter.segment source).dropLast <+: segmenter.segment (source ++ more) ∧
      (more ≠ [] → markers.contextAfter .outside source.lines = .outside →
        (∀ line ∈ more.lines.head?,
          markers.classify .outside line = .blockOpen ∨
            markers.classify .outside line = .lineComment ∧
              (markers.kinds .outside source.lines).getLast? ≠ some .lineComment) →
        segmenter.segment (source ++ more) = segmenter.segment source ++ segmenter.segment more) := by
  intro segmenter
  have whole : segmenter.segment (source ++ more) = markers.sections (source.lines ++ more.lines) :=
    congrArg markers.sections (Text.lines_append_of_ended ended more)
  rw [whole]
  refine ⟨markers.dropLast_sections_isPrefix source.lines more.lines, ?_⟩
  intro continued outside begins
  have read : source.lines ≠ [] := by
    apply Text.lines_ne_nil
    rintro rfl
    cases ended
  cases lines_more : more.lines with
  | nil => exact absurd lines_more (Text.lines_ne_nil continued)
  | cons line rest =>
    have isFirst : line ∈ more.lines.head? := by rw [lines_more]; rfl
    rw [markers.sections_append source.lines rest read outside (begins line isFirst), ← lines_more]
    rfl

/-- A block that is closed and followed by code, continued by a marked line. -/
theorem Segmenter.segment_append_marked :
    let segmenter := Segmenter.mk .slashes .none
    let source := "/** a\n*/\nx\n".toList
    let more := "// b\r\n\ny".toList
    source.getLast? = some '\n' ∧
      segmenter.segment (source ++ more) = segmenter.segment source ++ segmenter.segment more ∧
      segmenter.segment more = [⟨"b".toList, "\ny".toList⟩] := by
  refine ⟨by decide, ?_, by decide⟩
  exact (segment_append .slashes _ _ (by decide)).2 (by decide) (by decide) (by decide)

end Marginalia
