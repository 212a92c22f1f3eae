import Mathlib.Data.List.Basic
import Mathlib.Tactic.MkIffOfInductiveProp
import Marginalia.Text.Basic

/-!
# Lines and the texts made of them

`Text.unlines` ends each line with a line feed.  Reading the lines of such a text gives the same lines
back, provided that a line can be told from its ending: it has no line feed in it, and no carriage return
at its end, which would be read as a part of the ending.
-/

namespace Marginalia.Text

/-- The text of the given lines, each ended by a line feed. -/
def unlines (lines : List Text) : Text :=
  lines.flatMap fun line => line ++ ['\n']

/-- A line that ends where a line feed is put after it, and not before. -/
@[mk_iff]
structure Unbroken (line : Text) : Prop where
  lineFeed : '\n' ∉ line
  carriageReturn : line.getLast? ≠ some '\r'

instance (line : Text) : Decidable (Unbroken line) :=
  decidable_of_iff _ (unbroken_iff line).symm

@[simp] theorem unlines_nil : unlines [] = [] := rfl

@[simp] theorem unlines_cons (line : Text) (rest : List Text) :
    unlines (line :: rest) = line ++ (['\n'] ++ unlines rest) := by
  simp [unlines]

@[simp] theorem unlines_append (first second : List Text) :
    unlines (first ++ second) = unlines first ++ unlines second :=
  List.flatMap_append

/-- What is put before an unbroken line has to be unbroken itself. -/
theorem Unbroken.append {lead line : Text} (leadUnbroken : Unbroken lead)
    (unbroken : Unbroken line) : Unbroken (lead ++ line) where
  lineFeed := by
    rw [List.mem_append, not_or]
    exact ⟨leadUnbroken.lineFeed, unbroken.lineFeed⟩
  carriageReturn := by
    rw [List.getLast?_append]
    cases last : line.getLast? with
    | none => exact leadUnbroken.carriageReturn
    | some c =>
      have differs := unbroken.carriageReturn
      rwa [last] at differs

/-- A character that does not end a line goes to the front of the first line. -/
theorem lines_cons {c : Char} {rest line : Text} {others : List Text} (notFeed : c ≠ '\n')
    (notReturn : c = '\r' → rest.head? ≠ some '\n') (lines_rest : lines rest = line :: others) :
    lines (c :: rest) = (c :: line) :: others := by
  rw [lines, lines_rest]
  · exact fun isFeed => notFeed isFeed
  · rintro after rfl rfl
    exact notReturn rfl rfl

/-- Text without a line feed goes to the front of the first line after it, if a carriage return at its end
does not become a part of an ending there.  No other carriage return of the text has a line feed after it. -/
theorem lines_append {line rest first : Text} {others : List Text} (noFeed : '\n' ∉ line)
    (apart : line.getLast? = some '\r' → rest.head? ≠ some '\n') (lines_rest : lines rest = first :: others) :
    lines (line ++ rest) = (line ++ first) :: others := by
  induction line with
  | nil => exact lines_rest
  | cons c line ih =>
    rcases List.ne_and_not_mem_of_not_mem_cons noFeed with ⟨notFeed, noFeedLater⟩
    have apartLater : line.getLast? = some '\r' → rest.head? ≠ some '\n' := by
      intro last
      apply apart
      rw [List.getLast?_cons, last]
      rfl
    refine lines_cons notFeed.symm ?_ (ih noFeedLater apartLater)
    rintro rfl isFeed
    cases line with
    | nil => exact apart rfl isFeed
    | cons next line =>
      cases isFeed
      exact noFeedLater List.mem_cons_self

/-- An unbroken line is read before what would itself be read as the end of an empty line. -/
theorem lines_append_of_lines_eq {line rest : Text} {others : List Text} (unbroken : Unbroken line)
    (ends : lines rest = [] :: others) : lines (line ++ rest) = line :: others := by
  have apart : line.getLast? = some '\r' → rest.head? ≠ some '\n' := fun isReturn =>
    absurd isReturn unbroken.carriageReturn
  rw [lines_append unbroken.lineFeed apart ends, List.append_nil]

/-- A text without a line feed is one line, also if a carriage return is at its end. -/
theorem lines_of_lineFeed_not_mem {line : Text} (noFeed : '\n' ∉ line) (nonempty : line ≠ []) :
    lines line = [line] := by
  rcases List.eq_nil_or_concat line with rfl | ⟨before, last, rfl⟩
  · exact absurd rfl nonempty
  · rw [List.concat_eq_append, List.mem_append, not_or] at noFeed
    have notFeed : last ≠ '\n' := fun isFeed => noFeed.2 (isFeed ▸ List.mem_cons_self)
    have single : lines [last] = [[last]] := by
      rw [lines]
      · rfl
      · exact notFeed
      · intro rest _ impossible
        cases impossible
    have apart : before.getLast? = some '\r' → [last].head? ≠ some '\n' := fun _ isFeed =>
      notFeed (Option.some.inj isFeed)
    rw [List.concat_eq_append, lines_append noFeed.1 apart single]

/-- Lines that were ended are read back. -/
theorem lines_unlines {parts : List Text} (unbroken : ∀ line ∈ parts, Unbroken line) :
    lines (unlines parts) = parts := by
  induction parts with
  | nil => rfl
  | cons line rest ih =>
    rcases List.forall_mem_cons.mp unbroken with ⟨first, others⟩
    have read : lines (['\n'] ++ unlines rest) = [] :: rest := congrArg ([] :: ·) (ih others)
    rw [unlines_cons, lines_append_of_lines_eq first read]

theorem lines_ne_nil {text : Text} (nonempty : text ≠ []) : lines text ≠ [] := by
  fun_cases lines text with
  | case1 => exact absurd rfl nonempty
  | _ => exact List.cons_ne_nil _ _

/-- After a line feed the lines are read as if the text began there. -/
theorem lines_append_of_ended {text : Text} (ended : text.getLast? = some '\n') (rest : Text) :
    lines (text ++ rest) = lines text ++ lines rest := by
  fun_induction lines text with
  | case1 => cases ended
  | case2 text ih =>
    cases text with
    | nil => rfl
    | cons next text => exact congrArg ([] :: ·) (ih ended)
  | case3 text ih =>
    cases text with
    | nil => rfl
    | cons next text => exact congrArg ([] :: ·) (ih ended)
  | case4 c text notFeed notReturn lines_text ih =>
    cases text with
    | nil => exact absurd (Option.some.inj ended) notFeed
    | cons next text => exact absurd lines_text (lines_ne_nil (List.cons_ne_nil next text))
  | case5 c text notFeed notReturn first others lines_text ih =>
    cases text with
    | nil => cases lines_text
    | cons next text =>
      have later := ih ended
      rw [lines_text] at later
      refine lines_cons notFeed ?_ later
      intro isReturn isFeed
      exact notReturn text isReturn (congrArg (· :: text) (Option.some.inj isFeed))

/-- The lines of a text have no line feed in them. -/
theorem lineFeed_not_mem_of_mem_lines {text line : Text} (member : line ∈ lines text) :
    '\n' ∉ line := by
  fun_induction lines text generalizing line with
  | case1 => cases member
  | case2 rest ih =>
    rcases List.mem_cons.mp member with rfl | later
    · exact List.not_mem_nil
    · exact ih later
  | case3 rest ih =>
    rcases List.mem_cons.mp member with rfl | later
    · exact List.not_mem_nil
    · exact ih later
  | case4 c rest notFeed notReturn lines_rest ih =>
    rw [List.mem_singleton.mp member, List.mem_singleton]
    exact fun isFeed => notFeed isFeed.symm
  | case5 c rest notFeed notReturn first others lines_rest ih =>
    rw [lines_rest] at ih
    rcases List.mem_cons.mp member with rfl | later
    · rw [List.mem_cons, not_or]
      exact ⟨fun isFeed => notFeed isFeed.symm, ih List.mem_cons_self⟩
    · exact ih (List.mem_cons_of_mem first later)

end Marginalia.Text
