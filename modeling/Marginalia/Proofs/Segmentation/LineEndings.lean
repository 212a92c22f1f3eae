import Mathlib.Data.List.TakeWhile
import Marginalia.Proofs.Prologue.Builtin
import Marginalia.Proofs.Text.Leads
import Marginalia.Proofs.Text.Lines
import Marginalia.Segmenter

/-!
# Line endings do not matter

Lines can be ended in two ways, and a text may mix them.  `Text.Ended` relates lines to every text that
ends each of them somehow.  Segmentation reads the lines back, so it cannot tell such texts apart.

The built-in prologue looks at the text and not at its lines, and both of its patterns take breaks for
themselves.  What they leave is nevertheless a text of the same kind: of lines that depend on the given
lines alone, each with the ending it had.  A line that is not ended is left out of this part.  The last line
of a text may be an interpreter line, and that pattern needs a break after it.
-/

namespace Marginalia

namespace Text

/-- How a line can end. -/
inductive LineEnding where
  | lineFeed
  | carriageReturnLineFeed
  deriving DecidableEq, Repr

def LineEnding.text : LineEnding → Text
  | lineFeed => ['\n']
  | carriageReturnLineFeed => ['\r', '\n']

/-- The text consists of the lines, each with an ending of its own. -/
inductive Ended : List Text → Text → Prop
  | nil : Ended [] []
  | cons (line : Text) (ending : LineEnding) {rest : List Text} {text : Text} (later : Ended rest text) :
      Ended (line :: rest) (line ++ (ending.text ++ text))

/-- The same, except that the last line may be left unended if it has a character. -/
def Spelled (lines : List Text) (text : Text) : Prop :=
  Ended lines text ∨
    ∃ before last start, lines = before ++ [last] ∧ last ≠ [] ∧ Ended before start ∧ text = start ++ last

/-! ## Lines of such texts -/

theorem lines_append_ending {line : Text} (unbroken : Unbroken line) (ending : LineEnding) (rest : Text) :
    lines (line ++ (ending.text ++ rest)) = line :: lines rest := by
  have read : lines (ending.text ++ rest) = [] :: lines rest := by cases ending <;> rfl
  exact lines_append_of_lines_eq unbroken read

theorem Ended.lines_append {parts : List Text} {text : Text} (ended : Ended parts text)
    (unbroken : ∀ line ∈ parts, Unbroken line) (rest : Text) :
    lines (text ++ rest) = parts ++ lines rest := by
  induction ended with
  | nil => rfl
  | cons line ending later ih =>
    rcases List.forall_mem_cons.mp unbroken with ⟨first, others⟩
    rw [List.append_assoc, List.append_assoc, lines_append_ending first, ih others, List.cons_append]

theorem Ended.lines_eq {parts : List Text} {text : Text} (ended : Ended parts text)
    (unbroken : ∀ line ∈ parts, Unbroken line) : lines text = parts := by
  have read := ended.lines_append unbroken []
  rwa [List.append_nil, lines, List.append_nil] at read

theorem Spelled.lines_eq {parts : List Text} {text : Text} (spelled : Spelled parts text)
    (unbroken : ∀ line ∈ parts, Unbroken line) : lines text = parts := by
  rcases spelled with ended | ⟨before, last, start, rfl, nonempty, ended, rfl⟩
  · exact ended.lines_eq unbroken
  · rcases List.forall_mem_append.mp unbroken with ⟨others, lastUnbroken⟩
    rw [ended.lines_append others,
      lines_of_lineFeed_not_mem (List.forall_mem_singleton.mp lastUnbroken).lineFeed nonempty]

/-! ## What stripping does to the lines -/

theorem Unbroken.of_isSuffix {line part : Text} (unbroken : Unbroken line) (suffix : part <:+ line) :
    Unbroken part := by
  rcases suffix with ⟨before, rfl⟩
  refine ⟨fun member => unbroken.lineFeed (List.mem_append_right before member), ?_⟩
  intro last
  apply unbroken.carriageReturn
  rw [List.getLast?_append, last]
  rfl

/-- The lines that are left when leading characters are dropped, and every ending among them. -/
def dropLeading (drop : Char → Bool) : List Text → List Text
  | [] => []
  | line :: rest => if line.all drop then dropLeading drop rest else line.dropWhile drop :: rest

theorem Ended.dropWhile {drop : Char → Bool} (breaks : ∀ c, isBreak c = true → drop c = true)
    {parts : List Text} {text : Text} (ended : Ended parts text) :
    Ended (dropLeading drop parts) (text.dropWhile drop) := by
  induction ended with
  | nil => exact .nil
  | @cons line ending rest text later ih =>
    have all_isBreak : ending.text.all isBreak = true := by cases ending <;> rfl
    have ending_all : ∀ c ∈ ending.text, drop c = true := by
      intro c member
      apply breaks
      exact List.all_eq_true.mp all_isBreak c member
    rw [dropLeading]
    by_cases all : line.all drop = true
    · rw [if_pos all, List.dropWhile_append_of_pos (List.all_eq_true.mp all),
        List.dropWhile_append_of_pos ending_all]
      exact ih
    · have stops : line.dropWhile drop ≠ [] := by
        rw [ne_eq, List.dropWhile_eq_nil_iff]
        exact fun dropped => all (List.all_eq_true.mpr dropped)
      rw [if_neg all, List.dropWhile_append, if_neg (by simpa using stops)]
      exact .cons _ ending later

theorem unbroken_dropLeading (drop : Char → Bool) {parts : List Text}
    (unbroken : ∀ line ∈ parts, Unbroken line) : ∀ line ∈ dropLeading drop parts, Unbroken line := by
  induction parts with
  | nil => exact unbroken
  | cons line rest ih =>
    rcases List.forall_mem_cons.mp unbroken with ⟨first, others⟩
    rw [dropLeading]
    by_cases all : line.all drop = true
    · rw [if_pos all]
      exact ih others
    · rw [if_neg all]
      exact List.forall_mem_cons.mpr ⟨first.of_isSuffix (List.dropWhile_suffix drop), others⟩

/-- The text ends lines that can be told from their endings. -/
structure Lined (lines : List Text) (text : Text) : Prop where
  ended : Ended lines text
  unbroken : ∀ line ∈ lines, Unbroken line

theorem Lined.dropWhile {drop : Char → Bool} (breaks : ∀ c, isBreak c = true → drop c = true)
    {parts : List Text} {text : Text} (lined : Lined parts text) :
    Lined (dropLeading drop parts) (text.dropWhile drop) :=
  ⟨lined.ended.dropWhile breaks, unbroken_dropLeading drop lined.unbroken⟩

theorem isBlank_of_isBreak (c : Char) (breaks : isBreak c = true) : isBlank c = true := by
  rcases Bool.or_eq_true_iff.mp breaks with isReturn | isFeed
  · rw [eq_of_beq isReturn]
    rfl
  · rw [eq_of_beq isFeed]
    rfl

/-- A lead without breaks is a matter of the first line. -/
theorem dropLead?_append_ending {lead : Text} (noBreak : lead.any isBreak = false) (line : Text)
    (ending : LineEnding) (rest : Text) :
    dropLead? (line ++ (ending.text ++ rest)) lead =
      (dropLead? line lead).map (· ++ (ending.text ++ rest)) := by
  apply dropLead?_append_of_head?
  intro c isFirst member
  have notBreak := List.any_eq_false.mp noBreak c member
  cases ending <;> cases isFirst <;> exact notBreak rfl

/-- A line feed ends the line, whether or not a carriage return stands before it. -/
theorem afterBreaks?_append_ending {line : Text} (noFeed : '\n' ∉ line) (ending : LineEnding) (rest : Text) :
    afterBreaks? (line ++ (ending.text ++ rest)) = some (rest.dropWhile isBreak) := by
  induction line with
  | nil => cases ending <;> rfl
  | cons c line ih =>
    rcases List.ne_and_not_mem_of_not_mem_cons noFeed with ⟨notFeed, noFeedLater⟩
    rw [List.cons_append, afterBreaks?, if_neg notFeed.symm, ih noFeedLater]
    by_cases isReturn : c = '\r'
    · rw [if_pos isReturn]
      rfl
    · rw [if_neg isReturn]

end Text

namespace Prologue

def linesAfterInterpreterLine? : List Text → Option (List Text)
  | [] => .none
  | line :: rest => (line.dropLead? "#!".toList).map fun _ => Text.dropLeading Text.isBreak rest

def linesAfterOpeningTag? (lines : List Text) : Option (List Text) :=
  match Text.dropLeading Text.isBlank lines with
  | [] => .none
  | line :: rest =>
    (line.dropLead? "<?php".toList).map fun part => Text.dropLeading Text.isBlank (part :: rest)

/-- The lines that the built-in prologue leaves. -/
def stripLines (lines : List Text) : List Text :=
  let left := (linesAfterInterpreterLine? lines).getD lines
  (linesAfterOpeningTag? left).getD left

open Text

theorem rel_afterInterpreterLine? {lines : List Text} {text : Text} (lined : Lined lines text) :
    Option.Rel Lined (linesAfterInterpreterLine? lines) (afterInterpreterLine? text) := by
  rcases lined with ⟨ended, unbroken⟩
  cases ended with
  | nil => exact .none
  | @cons line ending rest text later =>
    rcases List.forall_mem_cons.mp unbroken with ⟨first, others⟩
    rw [linesAfterInterpreterLine?, afterInterpreterLine?, dropLead?_append_ending rfl]
    cases dropped : dropLead? line "#!".toList with
    | none => exact .none
    | some part =>
      have noFeed : '\n' ∉ part := by
        intro member
        apply first.lineFeed
        rw [eq_append_of_dropLead? dropped]
        exact List.mem_append_right _ member
      have after := afterBreaks?_append_ending noFeed ending text
      rw [Option.map_some, Option.map_some, Option.bind_some, after]
      exact .some (Lined.dropWhile (fun _ => id) ⟨later, others⟩)

theorem rel_afterOpeningTag? {lines : List Text} {text : Text} (lined : Lined lines text) :
    Option.Rel Lined (linesAfterOpeningTag? lines) (afterOpeningTag? text) := by
  have trimmed : Lined (dropLeading isBlank lines) text.trimStart := lined.dropWhile isBlank_of_isBreak
  rw [linesAfterOpeningTag?, afterOpeningTag?]
  generalize dropLeading isBlank lines = left at trimmed ⊢
  generalize text.trimStart = rest at trimmed ⊢
  rcases trimmed with ⟨ended, unbroken⟩
  cases ended with
  | nil => exact .none
  | @cons line ending rest text later =>
    rcases List.forall_mem_cons.mp unbroken with ⟨first, others⟩
    rw [dropLead?_append_ending rfl]
    dsimp only
    cases dropped : dropLead? line "<?php".toList with
    | none => exact .none
    | some part =>
      have suffix : part <:+ line := ⟨_, (eq_append_of_dropLead? dropped).symm⟩
      have left : Lined (part :: rest) (part ++ (ending.text ++ text)) :=
        ⟨.cons part ending later, List.forall_mem_cons.mpr ⟨first.of_isSuffix suffix, others⟩⟩
      exact .some (left.dropWhile isBlank_of_isBreak)

theorem lined_getD {first : Option (List Text)} {second : Option Text} (related : Option.Rel Lined first second)
    {lines : List Text} {text : Text} (lined : Lined lines text) :
    Lined (first.getD lines) (second.getD text) := by
  cases related with
  | none => exact lined
  | some both => exact both

/-- What is left of a text has lines that depend on its lines alone. -/
theorem lined_strip_builtin {lines : List Text} {text : Text} (lined : Lined lines text) :
    Lined (stripLines lines) (builtin.strip text) := by
  have left := lined_getD (rel_afterInterpreterLine? lined) lined
  rw [strip_builtin]
  exact lined_getD (rel_afterOpeningTag? left) left

end Prologue

/--
Texts that differ only in how they end the same lines have the same sections.  Without a prologue the last
line may also be left unended; with the built-in one every line has to be ended.
-/
theorem Segmenter.segment_ignores_lineEndings (markers : CommentSyntax) (lines : List Text)
    (unbroken : ∀ line ∈ lines, line.Unbroken) :
    (∀ first second, Text.Spelled lines first → Text.Spelled lines second →
      (Segmenter.mk markers .none).segment first = (Segmenter.mk markers .none).segment second) ∧
    (∀ first second, Text.Ended lines first → Text.Ended lines second →
      (Segmenter.mk markers .builtin).segment first = (Segmenter.mk markers .builtin).segment second) := by
  constructor
  · have sections_eq (text : Text) (spelled : Text.Spelled lines text) :
        (Segmenter.mk markers .none).segment text = markers.sections lines :=
      congrArg markers.sections (spelled.lines_eq unbroken)
    intro first second firstSpelled secondSpelled
    rw [sections_eq first firstSpelled, sections_eq second secondSpelled]
  · have sections_eq (text : Text) (ended : Text.Ended lines text) :
        (Segmenter.mk markers .builtin).segment text =
          markers.sections (Prologue.stripLines lines) := by
      have left := Prologue.lined_strip_builtin ⟨ended, unbroken⟩
      exact congrArg markers.sections (left.ended.lines_eq left.unbroken)
    intro first second firstEnded secondEnded
    rw [sections_eq first firstEnded, sections_eq second secondEnded]

/-- Breaks of both kinds after an interpreter line, and a tag behind a carriage return that ends no line.  In
the last of the texts the last line is not ended. -/
theorem Segmenter.segment_ignores_lineEndings_mixed :
    let lines : List Text := ["#!/x".toList, [], "\r <?php".toList, "// a".toList]
    let first := "#!/x\r\n\n\r <?php\r\n// a\n".toList
    let second := "#!/x\n\r\n\r <?php\n// a\r\n".toList
    let unended := "#!/x\n\n\r <?php\n// a".toList
    (∀ line ∈ lines, Text.Unbroken line) ∧
      (Text.Spelled lines first ∧ Text.Spelled lines unended ∧
        (Segmenter.mk .slashes .none).segment first = (Segmenter.mk .slashes .none).segment unended) ∧
      (Text.Ended lines first ∧ Text.Ended lines second ∧
        (Segmenter.mk .slashes .builtin).segment first =
          (Segmenter.mk .slashes .builtin).segment second) := by
  intro lines first second unended
  have unbroken : ∀ line ∈ lines, Text.Unbroken line := by decide
  have firstEnded : Text.Ended lines first :=
    .cons _ .carriageReturnLineFeed (.cons _ .lineFeed (.cons _ .carriageReturnLineFeed
      (.cons _ .lineFeed .nil)))
  have secondEnded : Text.Ended lines second :=
    .cons _ .lineFeed (.cons _ .carriageReturnLineFeed (.cons _ .lineFeed
      (.cons _ .carriageReturnLineFeed .nil)))
  have spelled : Text.Spelled lines unended :=
    .inr ⟨["#!/x".toList, [], "\r <?php".toList], "// a".toList, "#!/x\n\n\r <?php\n".toList, rfl,
      by decide, .cons _ .lineFeed (.cons _ .lineFeed (.cons _ .lineFeed .nil)), rfl⟩
  have same := segment_ignores_lineEndings .slashes lines unbroken
  exact ⟨unbroken, ⟨.inl firstEnded, spelled, same.1 first unended (.inl firstEnded) spelled⟩,
    firstEnded, secondEnded, same.2 first second firstEnded secondEnded⟩

end Marginalia
