import Mathlib.Data.List.Forall2
import Marginalia.Proofs.Segmentation.Columns
import Marginalia.Proofs.Text.Leads

/-!
# What is taken off a comment line

Three functions take a marker off a line.  Each leaves a line alone that does not have its marker after the
indentation, and otherwise takes the indentation and the marker, and all but one of them a single blank after
the marker.  Markers are arbitrary: they may be empty, begin with a blank, or be the beginning of one another.

Whether a line has its marker is asked twice, first when the line is classified and then when it is stripped.
`CommentSyntax.Leaves` says what each kind of line leaves in a section.  That every line of a segmentation
leaves just this means that the two answers never differ: a line is taken for an opener or for a marked line
only if the marker can be taken off it.
-/

namespace Marginalia

namespace CommentSyntax

/-! ## One marker -/

/-- The blank that follows a marker, if there is one. -/
def gap : Text → Text
  | c :: _ => if Text.isBlank c then [c] else []
  | [] => []

theorem gap_append_skipBlank (text : Text) : gap text ++ skipBlank text = text := by
  cases text with
  | nil => rfl
  | cons c rest =>
    cases blank : Text.isBlank c <;> simp [gap, skipBlank, blank]

/-- The line has the marker after its indentation, and `left` is the line without the indentation, the marker
and what is taken of the text after the marker. -/
def TakenOff (marker : Text) (taken : Text → Text) (line left : Text) : Prop :=
  ∃ rest, line.trimStart = marker ++ rest ∧
    line = line.takeWhile Text.isBlank ++ (marker ++ (taken rest ++ left))

/-- `left` is what stripping leaves of the line: the whole of it if the line does not have the marker. -/
structure Strips (marker : Text) (taken : Text → Text) (line left : Text) : Prop where
  marked : marker <+: line.trimStart → TakenOff marker taken line left
  unmarked : ¬ marker <+: line.trimStart → left = line

/-- Where a marker can be taken off, what is left and what was taken after it make up the rest of the line. -/
theorem takenOff_of_append {marker line rest left : Text} {taken : Text → Text}
    (marked : line.trimStart = marker ++ rest) (whole : taken rest ++ left = rest) :
    TakenOff marker taken line left := by
  refine ⟨rest, marked, ?_⟩
  rw [whole, ← marked]
  exact List.takeWhile_append_dropWhile.symm

theorem strips_stripMarker (marker line : Text) : Strips marker gap line (stripMarker marker line) where
  marked := by
    rintro ⟨rest, marked⟩
    refine takenOff_of_append marked.symm ?_
    rw [stripMarker, ← marked, Text.dropLead?_append]
    exact gap_append_skipBlank rest
  unmarked := by
    intro unmarked
    rw [stripMarker, Text.dropLead?_eq, if_neg unmarked]

theorem strips_stripBody {markers : CommentSyntax} {block : BlockMarkers}
    (isBlock : markers.block = some block) (line : Text) :
    Strips block.body gap line (markers.stripBody line) := by
  rw [stripBody, isBlock]
  exact strips_stripMarker block.body line

/-- After the opener everything is kept. -/
theorem strips_stripOpener {markers : CommentSyntax} {block : BlockMarkers}
    (isBlock : markers.block = some block) (line : Text) :
    Strips block.opener (fun _ => []) line (markers.stripOpener line) := by
  have stripped : markers.stripOpener line = (line.trimStart.dropLead? block.opener).getD line := by
    rw [stripOpener, isBlock]
  constructor
  · rintro ⟨rest, marked⟩
    refine takenOff_of_append marked.symm ?_
    rw [stripped, ← marked, Text.dropLead?_append]
    rfl
  · intro unmarked
    rw [stripped, Text.dropLead?_eq, if_neg unmarked]
    rfl

/-! ## Lines of a segmentation -/

/-- What a line of a kind leaves in its section.  Only the line that closes a block leaves nothing of itself,
and only an inner line of a block may be without its marker. -/
inductive Leaves (markers : CommentSyntax) : LineKind × Text → Contribution → Prop
  | code (line : Text) : Leaves markers (.code, line) (.code line)
  | lineComment {line left : Text} (taken : TakenOff markers.line gap line left) :
      Leaves markers (.lineComment, line) (.prose left)
  | blockOpen {block : BlockMarkers} {line left : Text} (isBlock : markers.block = some block)
      (taken : TakenOff block.opener (fun _ => []) line left) :
      Leaves markers (.blockOpen, line) (.prose left)
  | blockBody {block : BlockMarkers} {line left : Text} (isBlock : markers.block = some block)
      (strips : Strips block.body gap line left) : Leaves markers (.blockBody, line) (.prose left)
  | blockClose {block : BlockMarkers} {line before after : Text} (isBlock : markers.block = some block)
      (whole : line = before ++ (block.closer ++ after)) (blank : ∀ c ∈ before, Text.isBlank c = true)
      (blank' : ∀ c ∈ after, Text.isBlank c = true) : Leaves markers (.blockClose, line) (.prose [])

theorem leaves_lineComment {markers : CommentSyntax} {line : Text} (marks : markers.marksLine line = true) :
    Leaves markers (.lineComment, line) (.prose (markers.stripLine line)) :=
  .lineComment ((strips_stripMarker markers.line line).marked (Text.startsWith_iff.mp marks))

theorem leaves_blockOpen {markers : CommentSyntax} {line : Text} (opens : markers.opensBlock line = true) :
    Leaves markers (.blockOpen, line) (.prose (markers.stripOpener line)) := by
  rcases Option.isSome_iff_exists.mp (block_isSome_of_opensBlock opens) with ⟨block, isBlock⟩
  rw [opensBlock, isBlock] at opens
  exact .blockOpen isBlock ((strips_stripOpener isBlock line).marked (Text.startsWith_iff.mp opens))

theorem leaves_blockClose {markers : CommentSyntax} {line : Text} (closes : markers.closesBlock line = true) :
    Leaves markers (.blockClose, line) (.prose []) := by
  cases isBlock : markers.block with
  | none =>
    rw [closesBlock, isBlock] at closes
    cases closes
  | some block =>
    rw [closesBlock, isBlock] at closes
    rcases Text.exists_blanks_of_trim line with ⟨before, after, whole, blank, blank'⟩
    rw [eq_of_beq closes] at whole
    exact .blockClose isBlock whole blank blank'

/-- The rule that gives a line its kind has seen the marker that is taken off.  A syntax without blocks opens
none, but even inside one its lines would only be code. -/
theorem leaves_contribution (markers : CommentSyntax) (context : Context) (line : Text) :
    Leaves markers (markers.classify context line, line)
      (markers.contribution (markers.classify context line, line)) := by
  cases context with
  | inBlock =>
    rw [classify_inBlock]
    cases closes : markers.closesBlock line with
    | true => exact leaves_blockClose closes
    | false =>
      cases isBlock : markers.block with
      | none => exact .code line
      | some block => exact .blockBody isBlock (strips_stripBody isBlock line)
  | outside =>
    rw [classify_outside]
    cases opens : markers.opensBlock line with
    | true => exact leaves_blockOpen opens
    | false =>
      cases marks : markers.marksLine line with
      | true => exact leaves_lineComment marks
      | false => exact .code line

theorem forall₂_leaves_contributions (markers : CommentSyntax) (lines : List Text) :
    List.Forall₂ (Leaves markers) (markers.classified lines) (markers.contributions lines) := by
  induction lines using List.reverseRecOn with
  | nil => exact .nil
  | append_singleton lines line ih =>
    rw [classified_append_singleton, contributions_append_singleton]
    exact List.rel_append ih (.cons (leaves_contribution markers _ line) .nil)

/--
Stripping takes nothing but the indentation, the marker and, except after an opener, one blank off a line, and
only off a line that has the marker after its indentation; in a syntax without blocks the functions for blocks
take nothing.  In every segmentation each line leaves in its draft what its kind allows.  In particular marked
lines and lines that open a block have their marker, and a line that closes a block consists of the closer and
blanks.
-/
theorem stripping_takes_markers_only (markers : CommentSyntax) :
    (∀ line, Strips markers.line gap line (markers.stripLine line)) ∧
      (∀ block, markers.block = some block → ∀ line,
        Strips block.body gap line (markers.stripBody line) ∧
          Strips block.opener (fun _ => []) line (markers.stripOpener line)) ∧
      (markers.block = none → ∀ line, markers.stripBody line = line ∧ markers.stripOpener line = line) ∧
      ∀ lines, List.Forall₂ (Leaves markers) (markers.classified lines)
        ((Segmentation.ofLines markers lines).drafts.flatMap Draft.contributions) := by
  refine ⟨strips_stripMarker markers.line, ?_, ?_, ?_⟩
  · intro block isBlock line
    exact ⟨strips_stripBody isBlock line, strips_stripOpener isBlock line⟩
  · intro noBlock line
    rw [stripBody, stripOpener, noBlock]
    exact ⟨rfl, rfl⟩
  · intro lines
    rw [Segmentation.contributions_ofLines]
    exact forall₂_leaves_contributions markers lines

/-- An inner line of a block with two blanks after its marker, a line that opens a block, and the same lines in
a syntax without blocks. -/
theorem stripping_takes_markers_only_starred :
    (slashes.block = some ⟨"/**".toList, "*".toList, "*/".toList⟩ ∧
        Strips "*".toList gap "\t*  b".toList " b".toList ∧
        Strips "/**".toList (fun _ => []) " /** a".toList " a".toList) ∧
      hash.block = none ∧ hash.stripBody "\t*  b".toList = "\t*  b".toList ∧
        hash.stripOpener " /** a".toList = " /** a".toList := by
  have isBlock : slashes.block = some ⟨"/**".toList, "*".toList, "*/".toList⟩ := rfl
  have inBlock := (stripping_takes_markers_only slashes).2.1 _ isBlock
  have body : slashes.stripBody "\t*  b".toList = " b".toList := by decide
  have opener : slashes.stripOpener " /** a".toList = " a".toList := by decide
  have withoutBlock := (stripping_takes_markers_only hash).2.2.1 rfl
  exact ⟨⟨isBlock, body ▸ (inBlock "\t*  b".toList).1, opener ▸ (inBlock " /** a".toList).2⟩, rfl,
    (withoutBlock _).1, (withoutBlock _).2⟩

end CommentSyntax

end Marginalia
