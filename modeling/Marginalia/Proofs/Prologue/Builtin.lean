import Mathlib.Data.List.DropRight
import Marginalia.Proofs.Text.Leads
import Marginalia.Prologue

/-!
# What the built-in prologue removes

The two built-in patterns are compiled and run like any other, and the matcher keeps a list of threads, a
best match so far and, while there is none, one more thread that tries to start anew.  Here the two runs are
followed to the end and described without threads.

Both programs begin with a condition that holds at the start of the text only, so the thread that starts
anew never gets anywhere; `Program.Threads` says what is left of a place once this thread is ignored, and
`Program.resume` is the run seen from there.  In the first program three lists of instructions can be
pending: the line may go on, it may go on or have ended, or it has ended.  The second program is a chain
with a loop at each end.  Nothing here is about patterns that a caller gives.

What is removed can also be said without reading a text from left to right, by the first line feed and the
last carriage return in it.  This is done at the end.
-/

namespace Marginalia

/-! ## Runs that are anchored -/

namespace Program

section

variable (program : Program) (before : Char) (onward : List Nat) (best : Option Text)

/-- Where a run goes on from, and the start of the program while nothing has been found. -/
def seeds : List Nat :=
  if best.isNone then onward ++ [program.start] else onward

/-- The run after a character that led to the instructions `onward`. -/
def resume (text : Text) : Option Text :=
  if (program.seeds onward best).isEmpty then best
  else program.run (some before) (program.seeds onward best) best text

/-- At every place but the first the instructions give these threads, even if the program is also started
anew there. -/
def Threads (here : List Thread) : Prop :=
  ∀ before after, threads program.instructions (some before) after onward = here ∧
    threads program.instructions (some before) after (onward ++ [program.start]) = here

end

variable {program : Program} (before : Char) {onward : List Nat} (best : Option Text)
  {here : List Thread}

theorem run_cons (before : Option Char) (pending : List Nat) (c : Char) (rest : Text) :
    program.run before pending best (c :: rest) =
      program.resume c
        ((threads program.instructions before (some c) pending).filterMap (Thread.advance c))
        (if (threads program.instructions before (some c) pending).any Thread.isMatched
          then some (c :: rest) else best) rest :=
  rfl

theorem Threads.seeds_eq (here_eq : program.Threads onward here) (after : Option Char) :
    threads program.instructions (some before) after (program.seeds onward best) = here := by
  cases best with
  | none => exact (here_eq before after).2
  | some found => exact (here_eq before after).1

theorem resume_of_ne_nil (pending : onward ≠ []) (text : Text) :
    program.resume before onward best text =
      program.run (some before) (program.seeds onward best) best text := by
  unfold resume seeds
  cases best <;> simp [pending]

theorem resume_cons (here_eq : program.Threads onward here) (pending : onward ≠ []) (c : Char)
    (rest : Text) :
    program.resume before onward best (c :: rest) =
      program.resume c (here.filterMap (Thread.advance c))
        (if here.any Thread.isMatched then some (c :: rest) else best) rest := by
  rw [resume_of_ne_nil before best pending, run_cons, here_eq.seeds_eq]

theorem resume_end (here_eq : program.Threads onward here) (pending : onward ≠ []) :
    program.resume before onward best [] = if here.any Thread.isMatched then some [] else best := by
  rw [resume_of_ne_nil before best pending, run, here_eq.seeds_eq]

/-- A run without threads of its own finds nothing more. -/
theorem resume_nil (anchored : program.Threads [] []) (text : Text) :
    program.resume before [] best text = best := by
  cases best with
  | some found => rfl
  | none =>
    induction text generalizing before with
    | nil =>
      change program.run (some before) (program.seeds [] none) none [] = none
      rw [run, anchored.seeds_eq]
      rfl
    | cons c rest ih =>
      change program.run (some before) (program.seeds [] none) none (c :: rest) = none
      rw [run_cons, anchored.seeds_eq]
      exact ih c

/-- The instructions wait for the characters of a text, one after the other. -/
inductive Expects (program : Program) : Nat → Text → Nat → Prop
  | nil (position : Nat) : Expects program position [] position
  | cons {position next last : Nat} {c : Char} {lead : Text}
      (here_eq : program.Threads [position] [.waiting (.only c) next])
      (later : Expects program next lead last) : Expects program position (c :: lead) last

theorem resume_expects (anchored : program.Threads [] []) {first last : Nat} {lead : Text}
    (expects : program.Expects first lead last) {finish : Text → Option Text}
    (last_eq : ∀ before text, program.resume before [last] best text = finish text) (text : Text) :
    program.resume before [first] best text = (text.dropLead? lead).elim best finish := by
  induction expects generalizing before text with
  | nil position => rw [last_eq, Text.dropLead?]; rfl
  | @cons position next last expected lead here_eq later ih =>
    cases text with
    | nil => exact resume_end before best here_eq (List.cons_ne_nil _ _)
    | cons c rest =>
      rw [resume_cons before best here_eq (List.cons_ne_nil _ _)]
      by_cases isExpected : c = expected
      · have advances : [Thread.waiting (.only expected) next].filterMap (Thread.advance c) = [next] := by
          simp [Thread.advance, CharClass.only, isExpected]
        rw [advances, Text.dropLead?, if_pos isExpected]
        exact ih c last_eq rest
      · have stops : [Thread.waiting (.only expected) next].filterMap (Thread.advance c) = [] := by
          simp [Thread.advance, CharClass.only, isExpected]
        rw [stops, Text.dropLead?, if_neg isExpected]
        exact resume_nil c best anchored rest

/-- A loop at the end takes all it can, and the match ends there. -/
theorem resume_loop (anchored : program.Threads [] []) {entry again : Nat} {chars : CharClass}
    (entry_eq : program.Threads [entry] [.waiting chars again, .matched])
    (again_eq : program.Threads [again] [.waiting chars again, .matched]) (text : Text) :
    program.resume before [entry] best text = some (text.dropWhile chars) := by
  induction text generalizing before best entry with
  | nil => exact resume_end before best entry_eq (List.cons_ne_nil _ _)
  | cons c rest ih =>
    rw [resume_cons before best entry_eq (List.cons_ne_nil _ _)]
    cases takes : chars c with
    | true =>
      have advances : [Thread.waiting chars again, .matched].filterMap (Thread.advance c) = [again] := by
        simp [Thread.advance, takes]
      rw [advances, List.dropWhile_cons_of_pos takes]
      exact ih c _ again_eq
    | false =>
      have stops : [Thread.waiting chars again, .matched].filterMap (Thread.advance c) = [] := by
        simp [Thread.advance, takes]
      rw [stops, List.dropWhile_cons_of_neg (by simp [takes])]
      exact resume_nil c _ anchored rest

end Program

/-! ## The interpreter line -/

namespace Text

def isBreak (c : Char) : Bool :=
  c == '\r' || c == '\n'

/-- What follows the breaks after a line.  The line ends at the first line feed, with all breaks after it;
if there is none, it ends at the last carriage return. -/
def afterBreaks? : Text → Option Text
  | [] => none
  | c :: rest =>
    if c = '\n' then some (rest.dropWhile isBreak)
    else if c = '\r' then some ((afterBreaks? rest).getD rest)
    else afterBreaks? rest

end Text

namespace Prologue

/-- The compiled pattern of an interpreter line. -/
def interpreterProgram : Program where
  instructions :=
    #[.accept, .split 2 0, .consume (.unionAll [.only '\r', .only '\n']) 1, .split 4 2,
      .consume (.complement (.only '\n')) 3, .split 4 2, .consume (.only '!') 5,
      .consume (.only '#') 6, .check .textStart 7]
  start := 8

/-- The compiled pattern of an opening tag. -/
def tagProgram : Program where
  instructions :=
    #[.accept, .split 2 0, .consume .space 1, .split 2 0, .consume (.only 'p') 3,
      .consume (.only 'h') 4, .consume (.only 'p') 5, .consume (.only '?') 6, .consume (.only '<') 7,
      .split 10 8, .consume .space 9, .split 10 8, .check .textStart 11]
  start := 12

theorem builtin_eq : builtin = ⟨[interpreterProgram, tagProgram]⟩ := by
  rfl

theorem unionAll_breaks : CharClass.unionAll [.only '\r', .only '\n'] = Text.isBreak := by
  funext c
  simp [CharClass.unionAll, CharClass.only, Text.isBreak]

section InterpreterLine

open Program

theorem anchored_interpreterProgram : interpreterProgram.Threads [] [] :=
  fun _ _ => ⟨rfl, rfl⟩

/-- The threads of a line that may go on. -/
def lineThreads : List Thread :=
  [.waiting (.complement (.only '\n')) 3, .waiting (.unionAll [.only '\r', .only '\n']) 1]

theorem threads_line : interpreterProgram.Threads [3] lineThreads :=
  fun _ _ => ⟨rfl, rfl⟩

theorem threads_lineOrEnd : interpreterProgram.Threads [3, 1] (lineThreads ++ [.matched]) :=
  fun _ _ => ⟨rfl, rfl⟩

theorem threads_breaks :
    interpreterProgram.Threads [1] [.waiting (.unionAll [.only '\r', .only '\n']) 1, .matched] :=
  fun _ _ => ⟨rfl, rfl⟩

theorem resume_breaks (before : Char) (best : Option Text) (text : Text) :
    interpreterProgram.resume before [1] best text = some (text.dropWhile Text.isBreak) := by
  rw [resume_loop before best anchored_interpreterProgram threads_breaks threads_breaks, unionAll_breaks]

/-- Where the threads of a line go.  A carriage return may belong to the line or end it. -/
theorem advance_lineThreads (c : Char) :
    lineThreads.filterMap (Thread.advance c) =
      if c = '\n' then [1] else if c = '\r' then [3, 1] else [3] := by
  by_cases isFeed : c = '\n'
  · subst isFeed
    rfl
  · by_cases isReturn : c = '\r'
    · subst isReturn
      rfl
    · simp [lineThreads, Thread.advance, CharClass.complement, CharClass.only, CharClass.unionAll,
        isFeed, isReturn]

/-- The two ways to be inside the line are followed together, since a carriage return leads from the one to
the other. -/
theorem resume_line (before : Char) (best : Option Text) (text : Text) :
    interpreterProgram.resume before [3] best text = (Text.afterBreaks? text).or best ∧
      interpreterProgram.resume before [3, 1] best text =
        some ((Text.afterBreaks? text).getD text) := by
  induction text generalizing before best with
  | nil =>
    exact ⟨resume_end before best threads_line (List.cons_ne_nil _ _),
      resume_end before best threads_lineOrEnd (List.cons_ne_nil _ _)⟩
  | cons c rest ih =>
    rw [resume_cons before best threads_line (List.cons_ne_nil _ _),
      resume_cons before best threads_lineOrEnd (List.cons_ne_nil _ _), List.filterMap_append,
      advance_lineThreads, Text.afterBreaks?]
    have unmatched : lineThreads.any Thread.isMatched = false := rfl
    have matched : (lineThreads ++ [Thread.matched]).any Thread.isMatched = true := rfl
    have ends : [Thread.matched].filterMap (Thread.advance c) = [] := rfl
    rw [unmatched, matched, ends, List.append_nil]
    by_cases isFeed : c = '\n'
    · simp only [if_pos isFeed]
      exact ⟨resume_breaks c _ rest, resume_breaks c _ rest⟩
    · by_cases isReturn : c = '\r'
      · simp only [if_neg isFeed, if_pos isReturn]
        exact ⟨(ih c _).2, (ih c _).2⟩
      · simp only [if_neg isFeed, if_neg isReturn]
        refine ⟨(ih c _).1, (ih c _).1.trans ?_⟩
        cases Text.afterBreaks? rest <;> rfl

/-- What follows an interpreter line. -/
def afterInterpreterLine? (text : Text) : Option Text :=
  (text.dropLead? "#!".toList).bind Text.afterBreaks?

theorem expects_exclamation : interpreterProgram.Expects 6 ['!'] 5 :=
  .cons (fun _ _ => ⟨rfl, rfl⟩) (.nil 5)

theorem threads_lineStart : interpreterProgram.Threads [5] lineThreads :=
  fun _ _ => ⟨rfl, rfl⟩

theorem resume_lineStart (before : Char) (text : Text) :
    interpreterProgram.resume before [5] .none text = Text.afterBreaks? text := by
  have sameAsLine : interpreterProgram.resume before [5] .none text =
      interpreterProgram.resume before [3] .none text := by
    cases text with
    | nil => rfl
    | cons c rest =>
      rw [resume_cons before .none threads_lineStart (List.cons_ne_nil _ _),
        resume_cons before .none threads_line (List.cons_ne_nil _ _)]
  rw [sameAsLine, (resume_line before .none text).1, Option.or_none]

theorem afterMatch?_interpreterProgram (text : Text) :
    interpreterProgram.afterMatch? text = afterInterpreterLine? text := by
  cases text with
  | nil => rfl
  | cons c rest =>
    have first : threads interpreterProgram.instructions .none (some c) [interpreterProgram.start] =
        [.waiting (.only '#') 6] := rfl
    rw [afterMatch?, run_cons, first]
    by_cases isSign : c = '#'
    · have followed := resume_expects c .none anchored_interpreterProgram expects_exclamation
        resume_lineStart rest
      subst isSign
      refine followed.trans ?_
      change _ = (Text.dropLead? rest ['!']).bind Text.afterBreaks?
      cases Text.dropLead? rest ['!'] <;> rfl
    · have stops : [Thread.waiting (.only '#') 6].filterMap (Thread.advance c) = [] := by
        simp [Thread.advance, CharClass.only, isSign]
      rw [stops, resume_nil c _ anchored_interpreterProgram, afterInterpreterLine?]
      simp [Text.dropLead?, isSign, Thread.isMatched]

end InterpreterLine

/-! ## The opening tag -/

section OpeningTag

open Program

/-- What follows an opening tag and the blanks around it. -/
def afterOpeningTag? (text : Text) : Option Text :=
  (text.trimStart.dropLead? "<?php".toList).map Text.trimStart

theorem anchored_tagProgram : tagProgram.Threads [] [] :=
  fun _ _ => ⟨rfl, rfl⟩

theorem expects_tag : tagProgram.Expects 7 "?php".toList 3 :=
  .cons (fun _ _ => ⟨rfl, rfl⟩) (.cons (fun _ _ => ⟨rfl, rfl⟩)
    (.cons (fun _ _ => ⟨rfl, rfl⟩) (.cons (fun _ _ => ⟨rfl, rfl⟩) (.nil 3))))

theorem resume_tag (before : Char) (text : Text) :
    tagProgram.resume before [7] .none text = (text.dropLead? "?php".toList).map Text.trimStart := by
  have entry : tagProgram.Threads [3] [.waiting .space 1, .matched] := fun _ _ => ⟨rfl, rfl⟩
  have again : tagProgram.Threads [1] [.waiting .space 1, .matched] := fun _ _ => ⟨rfl, rfl⟩
  have trailing (before : Char) (rest : Text) :
      tagProgram.resume before [3] .none rest = some (Text.trimStart rest) :=
    resume_loop before .none anchored_tagProgram entry again rest
  rw [resume_expects before .none anchored_tagProgram expects_tag trailing]
  cases Text.dropLead? text "?php".toList <;> rfl

theorem threads_indentation :
    tagProgram.Threads [9] [.waiting .space 9, .waiting (.only '<') 7] :=
  fun _ _ => ⟨rfl, rfl⟩

theorem resume_indentation (before : Char) (text : Text) :
    tagProgram.resume before [9] .none text = afterOpeningTag? text := by
  induction text generalizing before with
  | nil => rfl
  | cons c rest ih =>
    rw [resume_cons before .none threads_indentation (List.cons_ne_nil _ _)]
    have unmatched : [Thread.waiting .space 9, .waiting (.only '<') 7].any Thread.isMatched = false := rfl
    rw [unmatched, afterOpeningTag?]
    by_cases isBlank : Text.isBlank c = true
    · have notTag : c ≠ '<' := by
        rintro rfl
        cases isBlank
      have advances : [Thread.waiting .space 9, .waiting (.only '<') 7].filterMap (Thread.advance c) =
          [9] := by
        simp [Thread.advance, CharClass.space, CharClass.only, isBlank, notTag]
      rw [advances, Text.trimStart, List.dropWhile_cons_of_pos isBlank]
      exact ih c
    · have trimmed : Text.trimStart (c :: rest) = c :: rest := List.dropWhile_cons_of_neg isBlank
      rw [trimmed]
      by_cases isTag : c = '<'
      · subst isTag
        exact resume_tag '<' rest
      · have stops : [Thread.waiting .space 9, .waiting (.only '<') 7].filterMap (Thread.advance c) =
            [] := by
          simp [Thread.advance, CharClass.space, CharClass.only, isBlank, isTag]
        rw [stops, resume_nil c _ anchored_tagProgram]
        simp [Text.dropLead?, isTag]

theorem afterMatch?_tagProgram (text : Text) :
    tagProgram.afterMatch? text = afterOpeningTag? text := by
  rw [← resume_indentation ' ']
  cases text with
  | nil => rfl
  | cons c rest =>
    rw [resume_cons ' ' .none threads_indentation (List.cons_ne_nil _ _)]
    rfl

end OpeningTag

/-- The interpreter line is removed first, and the opening tag from what that leaves. -/
theorem strip_builtin (text : Text) :
    builtin.strip text =
      (afterOpeningTag? ((afterInterpreterLine? text).getD text)).getD
        ((afterInterpreterLine? text).getD text) := by
  rw [builtin_eq]
  change stripOne (stripOne text interpreterProgram) tagProgram = _
  rw [stripOne, stripOne, afterMatch?_interpreterProgram, afterMatch?_tagProgram]

end Prologue

/-! ## Without reading from left to right -/

namespace Text

section

variable {keep : Char → Bool} {rest : Text}

theorem rtakeWhile_cons_of_not_all (stops : ¬ ∀ c ∈ rest, keep c = true) (c : Char) :
    List.rtakeWhile keep (c :: rest) = List.rtakeWhile keep rest := by
  have short : (rest.reverse.takeWhile keep).length ≠ rest.reverse.length := by
    intro whole
    have all := List.takeWhile_eq_self_iff.mp ((List.takeWhile_prefix keep).eq_of_length whole)
    exact stops fun c member => all c (List.mem_reverse.mpr member)
  rw [List.rtakeWhile, List.rtakeWhile, List.reverse_cons, List.takeWhile_append, if_neg short]

theorem rtakeWhile_cons_of_all (all : ∀ c ∈ rest, keep c = true) {c : Char} (stops : keep c = false) :
    List.rtakeWhile keep (c :: rest) = rest := by
  have whole : rest.reverse.takeWhile keep = rest.reverse :=
    List.takeWhile_eq_self_iff.mpr fun c member => all c (List.mem_reverse.mp member)
  rw [List.rtakeWhile, List.reverse_cons, List.takeWhile_append, whole]
  simp [stops]

end

/-- A line ends at the first line feed, and if there is none at the last carriage return. -/
theorem afterBreaks?_eq (text : Text) :
    afterBreaks? text =
      if '\n' ∈ text then some ((text.dropWhile (· != '\n')).tail.dropWhile isBreak)
      else if '\r' ∈ text then some (text.rtakeWhile (· != '\r'))
      else none := by
  induction text with
  | nil => rfl
  | cons c rest ih =>
    rw [afterBreaks?]
    by_cases isFeed : c = '\n'
    · subst isFeed
      rfl
    · have feed_iff : '\n' ∈ c :: rest ↔ '\n' ∈ rest := by simp [Ne.symm isFeed]
      have found : (c :: rest).dropWhile (· != '\n') = rest.dropWhile (· != '\n') :=
        List.dropWhile_cons_of_pos (by simpa using isFeed)
      rw [if_neg isFeed, ih]
      simp only [feed_iff, found]
      by_cases hasFeed : '\n' ∈ rest
      · simp only [if_pos hasFeed, Option.getD_some, ite_self]
      · simp only [if_neg hasFeed]
        by_cases hasReturn : '\r' ∈ rest
        · have notLastReturn : ¬ ∀ c ∈ rest, (c != '\r') = true := fun all => by simpa using all '\r' hasReturn
          simp only [if_pos hasReturn, List.mem_cons_of_mem c hasReturn, if_true, Option.getD_some,
            ite_self, rtakeWhile_cons_of_not_all notLastReturn]
        · have all : ∀ c ∈ rest, (c != '\r') = true := by
            intro c member
            rw [bne_iff_ne]
            rintro rfl
            exact hasReturn member
          by_cases isReturn : c = '\r'
          · subst isReturn
            simp [hasReturn, rtakeWhile_cons_of_all all]
          · simp [hasReturn, isReturn, Ne.symm isReturn]

end Text

namespace Prologue

/-- A text without its interpreter line.  All breaks after a line feed go with the line, but of several
carriage returns in a text without a line feed only what follows the last one stays. -/
def withoutInterpreterLine (text : Text) : Text :=
  if "#!".toList <+: text then
    if '\n' ∈ text then (text.dropWhile (· != '\n')).tail.dropWhile Text.isBreak
    else if '\r' ∈ text then text.rtakeWhile (· != '\r')
    else text
  else text

/-- A text without an opening tag at its start and without the blanks around that. -/
def withoutOpeningTag (text : Text) : Text :=
  if "<?php".toList <+: text.trimStart then
    Text.trimStart (text.trimStart.drop "<?php".toList.length)
  else text

/-- The end of the line may be looked for from the start of the text, since the lead has no break in it. -/
theorem getD_afterInterpreterLine? (text : Text) :
    (afterInterpreterLine? text).getD text = withoutInterpreterLine text := by
  rw [afterInterpreterLine?, withoutInterpreterLine, Text.dropLead?_eq]
  by_cases isLead : "#!".toList <+: text
  · rw [if_pos isLead, if_pos isLead, Option.bind_some]
    rcases isLead with ⟨rest, rfl⟩
    have sameEnd : Text.afterBreaks? rest = Text.afterBreaks? ("#!".toList ++ rest) := rfl
    rw [List.drop_left, sameEnd, Text.afterBreaks?_eq]
    split
    · rfl
    · split <;> rfl
  · rw [if_neg isLead, if_neg isLead]
    rfl

theorem getD_afterOpeningTag? (text : Text) :
    (afterOpeningTag? text).getD text = withoutOpeningTag text := by
  rw [afterOpeningTag?, withoutOpeningTag, Text.dropLead?_eq]
  split <;> rfl

/-- The built-in prologue removes an interpreter line and then an opening tag, and nothing else. -/
theorem strip_builtin_eq_without (text : Text) :
    builtin.strip text = withoutOpeningTag (withoutInterpreterLine text) := by
  rw [strip_builtin, getD_afterInterpreterLine?, getD_afterOpeningTag?]

/-- Without a line feed the breaks between the first and the last carriage return do not count. -/
example : withoutInterpreterLine "#!a\rb\r\rc".toList = "c".toList := by decide

end Prologue

end Marginalia
