import Marginalia.Proofs.Prologue.Builtin
import Marginalia.Proofs.Segmentation.Columns
import Marginalia.Segmenter

/-!
# Sections as slices

Segmentation can be described without buffers.  Give every line its kind, call an index a *cut* when its
line begins a section, and slice the lines at the cuts: each slice is a section.

The buffered reader decides the same cuts from less, namely the kind of the previous line and whether
the current draft holds a line.  The second test never fails at an index after the first, since every
line leaves a line in the draft; at the first index it is what keeps an empty section from being made.
Markers may be empty or equal to each other throughout.
-/

namespace Marginalia

/-! ## Cuts and slices -/

/-- The line at an index begins a section.  The first line never does: its section has begun. -/
def IsCut (kinds : List LineKind) (index : Nat) : Prop :=
  0 < index ∧
    (kinds[index]? = some .blockOpen ∨
      kinds[index]? = some .lineComment ∧ kinds[index - 1]? ≠ some .lineComment)
  deriving Decidable

/-- All cuts, in order. -/
def cuts (kinds : List LineKind) : List Nat :=
  (List.range kinds.length).filter fun index => IsCut kinds index

/-- The parts of a list from `first` on, cut at the given indices. -/
def slicesFrom {α : Type} (items : List α) : (first : Nat) → List Nat → List (List α)
  | first, [] => [items.drop first]
  | first, next :: rest => (items.take next).drop first :: slicesFrom items next rest

/-- The parts of a list between consecutive cuts. -/
def slices {α : Type} (bounds : List Nat) (items : List α) : List (List α) :=
  slicesFrom items 0 bounds

/-- Lines with their kinds as a draft. -/
def CommentSyntax.draftOf (markers : CommentSyntax) (slice : List (LineKind × Text)) : Draft where
  comment := slice.filterMap fun line => (markers.contribution line).prose?
  code := slice.filterMap fun line => (markers.contribution line).code?

/-- Lines with their kinds as a section: the prose of the comment lines and the code lines as they are,
each with a line feed between neighbours. -/
def CommentSyntax.sectionOf (markers : CommentSyntax) (slice : List (LineKind × Text)) : Section :=
  (markers.draftOf slice).toSection

theorem CommentSyntax.draftOf_append_singleton (markers : CommentSyntax)
    (slice : List (LineKind × Text)) (line : LineKind × Text) :
    markers.draftOf (slice ++ [line]) =
      (markers.draftOf slice).add (markers.contribution line) := by
  cases contribution : markers.contribution line with
  | prose text =>
    simp [draftOf, contribution, Draft.add, Draft.addComment, Contribution.prose?,
      Contribution.code?]
  | code text =>
    simp [draftOf, contribution, Draft.add, Draft.addCode, Contribution.prose?,
      Contribution.code?]

/-- Only the kinds up to an index decide whether it is a cut. -/
theorem isCut_append_iff (kinds : List LineKind) (kind : LineKind) {index : Nat}
    (earlier : index < kinds.length) : IsCut (kinds ++ [kind]) index ↔ IsCut kinds index := by
  unfold IsCut
  rw [List.getElem?_append_left earlier, List.getElem?_append_left (by omega)]

theorem isCut_last_iff (kinds : List LineKind) (kind : LineKind) :
    IsCut (kinds ++ [kind]) kinds.length ↔ kinds ≠ [] ∧ kind.Begins kinds.getLast? := by
  unfold IsCut LineKind.Begins
  rw [List.getElem?_concat_length, ← List.length_pos_iff]
  refine and_congr_right fun nonempty => ?_
  rw [List.getElem?_append_left (by omega), List.getLast?_eq_getElem?]
  simp

theorem cuts_append_singleton (kinds : List LineKind) (kind : LineKind) :
    cuts (kinds ++ [kind]) =
      cuts kinds ++ if IsCut (kinds ++ [kind]) kinds.length then [kinds.length] else [] := by
  unfold cuts
  rw [List.length_append, List.length_singleton, List.range_succ, List.filter_append]
  congr 1
  · apply List.filter_congr
    intro index member
    simp [isCut_append_iff kinds kind (List.mem_range.mp member)]
  · by_cases last : IsCut (kinds ++ [kind]) kinds.length <;> simp [last]

theorem le_of_mem_cuts {kinds : List LineKind} {index : Nat} (member : index ∈ cuts kinds) :
    index ≤ kinds.length :=
  Nat.le_of_lt (List.mem_range.mp (List.mem_filter.mp member).1)

section

variable {α : Type} (items : List α) (item : α)

/-- A new item with a cut before it is a slice of its own. -/
theorem slicesFrom_append_cut (first : Nat) (bounds : List Nat) (start : first ≤ items.length)
    (within : ∀ bound ∈ bounds, bound ≤ items.length) :
    slicesFrom (items ++ [item]) first (bounds ++ [items.length]) =
      slicesFrom items first bounds ++ [[item]] := by
  induction bounds generalizing first with
  | nil => simp [slicesFrom]
  | cons next rest ih =>
    have bounded := List.forall_mem_cons.mp within
    simp [slicesFrom, ih next bounded.1 bounded.2, List.take_append_of_le_length bounded.1]

/-- A new item without a cut before it goes to the last slice. -/
theorem slicesFrom_append_item (first : Nat) (bounds : List Nat) (start : first ≤ items.length)
    (within : ∀ bound ∈ bounds, bound ≤ items.length) :
    ∃ before last, slicesFrom items first bounds = before ++ [last] ∧
      slicesFrom (items ++ [item]) first bounds = before ++ [last ++ [item]] := by
  induction bounds generalizing first with
  | nil =>
    refine ⟨[], items.drop first, rfl, ?_⟩
    simp [slicesFrom, List.drop_append_of_le_length start]
  | cons next rest ih =>
    have bounded := List.forall_mem_cons.mp within
    rcases ih next bounded.1 bounded.2 with ⟨before, last, old, new⟩
    refine ⟨(items.take next).drop first :: before, last, ?_, ?_⟩
    · simp [slicesFrom, old]
    · simp [slicesFrom, new, List.take_append_of_le_length bounded.1]

theorem length_slicesFrom (first : Nat) (bounds : List Nat) :
    (slicesFrom items first bounds).length = 1 + bounds.length := by
  induction bounds generalizing first with
  | nil => rfl
  | cons next rest ih =>
    simp only [slicesFrom, List.length_cons, ih]
    omega

end

/-! ## The reader finds the cuts -/

namespace Segmentation

/-- Where the last line is a cut, the reader finishes a draft, which is never empty. -/
theorem opened_of_isCut (markers : CommentSyntax) (lines : List Text) (kind : LineKind)
    (isCut : IsCut (markers.kinds .outside lines ++ [kind]) (markers.kinds .outside lines).length) :
    ((ofLines markers lines).opened kind).finished = (ofLines markers lines).drafts ∧
      ((ofLines markers lines).opened kind).current = {} := by
  rcases (isCut_last_iff _ _).mp isCut with ⟨read, begins⟩
  have nonempty : lines ≠ [] := by
    rintro rfl
    exact read rfl
  have holds : (ofLines markers lines).current.isEmpty = false := by
    have lineHeld := current_nonempty_ofLines markers nonempty
    simp only [Draft.isEmpty, Bool.and_eq_false_iff, List.isEmpty_eq_false_iff]
    exact lineHeld
  rw [← previous_ofLines] at begins
  simp [opened, begins, cut, holds, drafts]

/-- Elsewhere the line goes to the draft at hand; before the first line there is nothing to finish. -/
theorem opened_of_not_isCut (markers : CommentSyntax) (lines : List Text) (kind : LineKind)
    (notCut :
      ¬ IsCut (markers.kinds .outside lines ++ [kind]) (markers.kinds .outside lines).length) :
    (ofLines markers lines).opened kind = ofLines markers lines := by
  rw [isCut_last_iff, ← previous_ofLines] at notCut
  by_cases begins : kind.Begins (ofLines markers lines).previous
  · have unread : markers.kinds .outside lines = [] := by
      by_contra read
      exact notCut ⟨read, begins⟩
    have noLines : lines = [] := by
      rw [← List.length_eq_zero_iff, ← CommentSyntax.length_kinds markers .outside lines, unread]
      rfl
    subst noLines
    simp only [opened, if_pos begins]
    rfl
  · simp [opened, begins]

/-- The drafts are the slices between the cuts.  Lines are read from the front, so what a further line does is
seen at the end of the list. -/
theorem drafts_ofLines (markers : CommentSyntax) (lines : List Text) :
    (ofLines markers lines).drafts =
      (slices (cuts (markers.kinds .outside lines)) (markers.classified lines)).map
        markers.draftOf := by
  induction lines using List.reverseRecOn with
  | nil => rfl
  | append_singleton lines line ih =>
    have length : (markers.kinds .outside lines).length = (markers.classified lines).length := by
      simp
    have within : ∀ bound ∈ cuts (markers.kinds .outside lines),
        bound ≤ (markers.classified lines).length := by
      intro bound member
      exact length ▸ le_of_mem_cuts member
    rw [ofLines_append_singleton, step_eq, context_ofLines,
      CommentSyntax.kinds_append_singleton, CommentSyntax.classified_append_singleton,
      cuts_append_singleton]
    generalize markers.classify (markers.contextAfter .outside lines) line = kind
    by_cases isCut :
        IsCut (markers.kinds .outside lines ++ [kind]) (markers.kinds .outside lines).length
    · rcases opened_of_isCut markers lines kind isCut with ⟨finished, current⟩
      rw [if_pos isCut, length, slices, slicesFrom_append_cut _ _ _ _ (Nat.zero_le _) within]
      simp only [drafts, finished, current, List.map_append]
      rw [← slices, ← ih]
      simp only [drafts, List.map_cons, List.map_nil]
      rw [← List.nil_append [(kind, line)], CommentSyntax.draftOf_append_singleton]
      rfl
    · rcases slicesFrom_append_item (markers.classified lines) (kind, line) 0 _
        (Nat.zero_le _) within with ⟨before, last, old, new⟩
      rw [slices, old, List.map_append, drafts] at ih
      rcases List.append_inj' ih rfl with ⟨finished, current⟩
      rw [if_neg isCut, List.append_nil, slices, new, opened_of_not_isCut markers lines kind isCut]
      simp only [List.map_cons, List.map_nil, List.cons.injEq, and_true] at current
      simp only [drafts, List.map_append, List.map_cons, List.map_nil, finished, current,
        CommentSyntax.draftOf_append_singleton]

end Segmentation

/--
The sections of a source are the slices of its lines between consecutive cuts, in order.  So there is one
section more than cuts, and a source of which no line is left has the one section without prose and code.
-/
theorem Segmenter.segment_eq_slices (segmenter : Segmenter) (source : Text) :
    let lines := (segmenter.prologue.strip source).lines
    let kinds := segmenter.markers.kinds .outside lines
    segmenter.segment source =
        (slices (cuts kinds) (kinds.zip lines)).map segmenter.markers.sectionOf ∧
      (segmenter.segment source).length = 1 + (cuts kinds).length ∧
      (lines = [] → segmenter.segment source = [{ comment := [], code := [] }]) := by
  intro lines kinds
  have sliced : segmenter.segment source =
      (slices (cuts kinds) (kinds.zip lines)).map segmenter.markers.sectionOf := by
    unfold segment CommentSyntax.sections
    rw [Segmentation.drafts_ofLines, List.map_map]
    rfl
  refine ⟨sliced, ?_, ?_⟩
  · rw [sliced, List.length_map, slices, length_slicesFrom]
  · intro noLines
    have noKinds : kinds = [] := by
      simp only [kinds, noLines]
      rfl
    rw [sliced, noLines, noKinds]
    rfl

/-- A source that is all prologue: an interpreter line, which would be prose if it were not removed. -/
theorem Segmenter.segment_eq_slices_empty :
    (Prologue.builtin.strip "#!/bin/sh\n".toList).lines = [] ∧
      (Segmenter.mk .hash .builtin).segment "#!/bin/sh\n".toList = [{ comment := [], code := [] }] := by
  have noLines : (Prologue.builtin.strip "#!/bin/sh\n".toList).lines = [] := by
    rw [Prologue.strip_builtin, String.toList_ofList]
    rfl
  exact ⟨noLines, (Segmenter.segment_eq_slices (Segmenter.mk .hash .builtin) _).2.2 noLines⟩

end Marginalia
