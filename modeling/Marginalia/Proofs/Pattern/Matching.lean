import Mathlib.Data.List.Basic
import Marginalia.Pattern.Program

/-!
# What a compiled pattern finds

`Pattern.Matches` says what a pattern matches, constructor by constructor and without preferences: which of
several matches is taken is not said.  The program that is compiled from the pattern finds nothing else.

Between the two stands `Program.Accepts`, the ways through the instructions of a program to its acceptance.
The threads of a run follow such ways, so what a run finds is accepted from where it was started.  In the
other direction a way through the instructions of a pattern is cut at the place where it leaves them.  The
instructions of a repetition lead back to its beginning, and therefore ways are counted: what is left of a
way after one round of a repetition is shorter than the way was.
-/

namespace Marginalia

/-- A pattern matches from one place of a text to another.  A place is given by the character before it and
by the text after it. -/
inductive Pattern.Matches : Pattern → Option Char → Text → Option Char → Text → Prop
  | empty (before : Option Char) (text : Text) : Matches .empty before text before text
  | set {chars : CharClass} {c : Char} (member : chars c = true) (before : Option Char) (rest : Text) :
      Matches (.set chars) before (c :: rest) (some c) rest
  | look {condition : Look} {before : Option Char} {text : Text}
      (holds : condition.holds before text.head? = true) :
      Matches (.look condition) before text before text
  | seq {first second : Pattern} {before middle after : Option Char} {text between rest : Text}
      (left : Matches first before text middle between)
      (right : Matches second middle between after rest) :
      Matches (.seq first second) before text after rest
  | choiceFirst {first : Pattern} (second : Pattern) {before after : Option Char} {text rest : Text}
      (matched : Matches first before text after rest) :
      Matches (.choice first second) before text after rest
  | choiceSecond (first : Pattern) {second : Pattern} {before after : Option Char} {text rest : Text}
      (matched : Matches second before text after rest) :
      Matches (.choice first second) before text after rest
  | optionalSkip (body : Pattern) (greedy : Bool) (before : Option Char) (text : Text) :
      Matches (.optional body greedy) before text before text
  | optionalTake {body : Pattern} (greedy : Bool) {before after : Option Char} {text rest : Text}
      (matched : Matches body before text after rest) :
      Matches (.optional body greedy) before text after rest
  | repeatedLast {body : Pattern} (greedy : Bool) {before after : Option Char} {text rest : Text}
      (matched : Matches body before text after rest) :
      Matches (.repeated body greedy) before text after rest
  | repeatedMore {body : Pattern} {greedy : Bool} {before middle after : Option Char}
      {text between rest : Text} (first : Matches body before text middle between)
      (further : Matches (.repeated body greedy) middle between after rest) :
      Matches (.repeated body greedy) before text after rest

/-- What a pattern leaves of a text is its end. -/
theorem Pattern.Matches.isSuffix {pattern : Pattern} {before after : Option Char} {text rest : Text}
    (matched : pattern.Matches before text after rest) : rest <:+ text := by
  induction matched with
  | empty => exact List.suffix_rfl
  | set => exact List.suffix_cons _ _
  | look => exact List.suffix_rfl
  | seq _ _ left right => exact right.trans left
  | choiceFirst _ _ ih => exact ih
  | choiceSecond _ _ ih => exact ih
  | optionalSkip => exact List.suffix_rfl
  | optionalTake _ _ ih => exact ih
  | repeatedLast _ _ ih => exact ih
  | repeatedMore _ _ first further => exact further.trans first

namespace Program

/-- A way through the instructions, of a number of steps, from a position to acceptance.  It begins at a
place of a text and leaves `rest`. -/
inductive Accepts (code : Array Instruction) : Nat → Nat → Option Char → Text → Text → Prop
  | accept {position : Nat} (here : code[position]? = some .accept) (before : Option Char) (text : Text) :
      Accepts code 0 position before text text
  | consume {steps position next : Nat} {chars : CharClass} {c : Char} {text rest : Text}
      (here : code[position]? = some (.consume chars next)) (member : chars c = true)
      (before : Option Char) (further : Accepts code steps next (some c) text rest) :
      Accepts code (steps + 1) position before (c :: text) rest
  | check {steps position next : Nat} {condition : Look} {before : Option Char} {text rest : Text}
      (here : code[position]? = some (.check condition next))
      (holds : condition.holds before text.head? = true)
      (further : Accepts code steps next before text rest) :
      Accepts code (steps + 1) position before text rest
  | preferred {steps position preferred other : Nat} {before : Option Char} {text rest : Text}
      (here : code[position]? = some (.split preferred other))
      (further : Accepts code steps preferred before text rest) :
      Accepts code (steps + 1) position before text rest
  | other {steps position preferred other : Nat} {before : Option Char} {text rest : Text}
      (here : code[position]? = some (.split preferred other))
      (further : Accepts code steps other before text rest) :
      Accepts code (steps + 1) position before text rest

/-- There is a way from a position to acceptance. -/
def Reaches (code : Array Instruction) (position : Nat) (before : Option Char) (text rest : Text) : Prop :=
  ∃ steps, Accepts code steps position before text rest

/-! ## Instructions of a pattern -/

theorem size_le_emit (pattern : Pattern) (next : Nat) (code : Array Instruction) :
    code.size ≤ (emit pattern next code).2.size := by
  induction pattern generalizing next code with
  | empty => exact Nat.le_refl _
  | set => simp [emit]
  | look => simp [emit]
  | seq first second firstIH secondIH =>
    exact Nat.le_trans (secondIH next code) (firstIH _ _)
  | choice first second firstIH secondIH =>
    have inner := Nat.le_trans (secondIH next code) (firstIH next (emit second next code).2)
    simp only [emit, Array.size_push]
    exact Nat.le_succ_of_le inner
  | optional body greedy ih =>
    have inner := ih next code
    simp only [emit, Array.size_push]
    exact Nat.le_succ_of_le inner
  | repeated body greedy ih =>
    have inner := ih code.size (code.push .accept)
    simp only [emit, Array.size_setIfInBounds]
    rw [Array.size_push] at inner
    exact Nat.le_of_succ_le inner

/-- Instructions are only added. -/
theorem getElem?_emit (pattern : Pattern) (next : Nat) (code : Array Instruction) {position : Nat}
    (old : position < code.size) : (emit pattern next code).2[position]? = code[position]? := by
  induction pattern generalizing next code with
  | empty => rfl
  | set => simp [emit, Array.getElem?_push, Nat.ne_of_lt old]
  | look => simp [emit, Array.getElem?_push, Nat.ne_of_lt old]
  | seq first second firstIH secondIH =>
    have older := Nat.lt_of_lt_of_le old (size_le_emit second next code)
    simp only [emit]
    rw [firstIH _ _ older, secondIH _ _ old]
  | choice first second firstIH secondIH =>
    have older := Nat.lt_of_lt_of_le old (size_le_emit second next code)
    have oldest := Nat.lt_of_lt_of_le older (size_le_emit first next (emit second next code).2)
    simp only [emit]
    rw [Array.getElem?_push, if_neg (Nat.ne_of_lt oldest), firstIH _ _ older, secondIH _ _ old]
  | optional body greedy ih =>
    have older := Nat.lt_of_lt_of_le old (size_le_emit body next code)
    simp only [emit]
    rw [Array.getElem?_push, if_neg (Nat.ne_of_lt older), ih _ _ old]
  | repeated body greedy ih =>
    have older : position < (code.push .accept).size := by
      rw [Array.size_push]
      exact Nat.lt_succ_of_lt old
    simp only [emit]
    rw [Array.getElem?_setIfInBounds_ne (Nat.ne_of_gt old), ih _ _ older, Array.getElem?_push,
      if_neg (Nat.ne_of_lt old)]

/-- The code has the instructions that are added for the pattern. -/
def Contains (final : Array Instruction) (pattern : Pattern) (next : Nat) (code : Array Instruction) : Prop :=
  ∀ position, code.size ≤ position → position < (emit pattern next code).2.size →
    final[position]? = (emit pattern next code).2[position]?

section

variable {final code : Array Instruction} {next : Nat}

theorem Contains.of_set {chars : CharClass} (contains : Contains final (.set chars) next code) :
    final[(emit (.set chars) next code).1]? = some (.consume chars next) := by
  have here := contains code.size (Nat.le_refl _) (by simp [emit])
  simpa only [emit, Array.getElem?_push_size] using here

theorem Contains.of_look {condition : Look} (contains : Contains final (.look condition) next code) :
    final[(emit (.look condition) next code).1]? = some (.check condition next) := by
  have here := contains code.size (Nat.le_refl _) (by simp [emit])
  simpa only [emit, Array.getElem?_push_size] using here

theorem Contains.of_seq {first second : Pattern} (contains : Contains final (.seq first second) next code) :
    Contains final first (emit second next code).1 (emit second next code).2 ∧
      Contains final second next code := by
  constructor
  · intro position new inside
    exact contains position (Nat.le_trans (size_le_emit second next code) new) inside
  · intro position new inside
    rw [← getElem?_emit first (emit second next code).1 _ inside]
    exact contains position new (Nat.lt_of_lt_of_le inside (size_le_emit first _ _))

theorem Contains.of_choice {first second : Pattern}
    (contains : Contains final (.choice first second) next code) :
    Contains final first next (emit second next code).2 ∧ Contains final second next code ∧
      final[(emit (.choice first second) next code).1]? =
        some (.split (emit first next (emit second next code).2).1 (emit second next code).1) := by
  have inner := size_le_emit first next (emit second next code).2
  have inSecond := size_le_emit second next code
  have branches {position : Nat} (new : code.size ≤ position)
      (inside : position < (emit first next (emit second next code).2).2.size) :
      final[position]? = (emit first next (emit second next code).2).2[position]? := by
    have there := contains position new (by
      simp only [emit, Array.size_push]
      exact Nat.lt_succ_of_lt inside)
    simpa only [emit, Array.getElem?_push, if_neg (Nat.ne_of_lt inside)] using there
  refine ⟨?_, ?_, ?_⟩
  · intro position new inside
    exact branches (Nat.le_trans inSecond new) inside
  · intro position new inside
    rw [branches new (Nat.lt_of_lt_of_le inside inner), getElem?_emit first next _ inside]
  · have here := contains (emit first next (emit second next code).2).2.size
      (Nat.le_trans inSecond inner) (by simp [emit])
    simpa only [emit, Array.getElem?_push_size] using here

theorem Contains.of_optional {body : Pattern} {greedy : Bool}
    (contains : Contains final (.optional body greedy) next code) :
    Contains final body next code ∧
      final[(emit (.optional body greedy) next code).1]? =
        some (if greedy then .split (emit body next code).1 next else .split next (emit body next code).1) := by
  constructor
  · intro position new inside
    have there := contains position new (by
      simp only [emit, Array.size_push]
      exact Nat.lt_succ_of_lt inside)
    simpa only [emit, Array.getElem?_push, if_neg (Nat.ne_of_lt inside)] using there
  · have here := contains (emit body next code).2.size (size_le_emit body next code) (by simp [emit])
    simpa only [emit, Array.getElem?_push_size] using here

/-- The place of the split is taken first, and what is there is put there last. -/
theorem Contains.of_repeated {body : Pattern} {greedy : Bool}
    (contains : Contains final (.repeated body greedy) next code) :
    Contains final body code.size (code.push .accept) ∧
      final[code.size]? = some (if greedy then .split (emit (.repeated body greedy) next code).1 next
        else .split next (emit (.repeated body greedy) next code).1) := by
  have inner := size_le_emit body code.size (code.push .accept)
  rw [Array.size_push] at inner
  constructor
  · intro position new inside
    rw [Array.size_push] at new
    have there := contains position (Nat.le_of_succ_le new) (by
      simp only [emit, Array.size_setIfInBounds]
      exact inside)
    simpa only [emit, Array.getElem?_setIfInBounds_ne (Nat.ne_of_lt new)] using there
  · have here := contains code.size (Nat.le_refl _) (by
      simp only [emit, Array.size_setIfInBounds]
      exact inner)
    simpa only [emit, Array.getElem?_setIfInBounds_self_of_lt inner] using here

end

section

variable {code : Array Instruction} {steps position : Nat} {before : Option Char} {text rest : Text}
  (accepts : Accepts code steps position before text rest)

include accepts

theorem Accepts.of_consume {chars : CharClass} {next : Nat}
    (here : code[position]? = some (.consume chars next)) :
    ∃ fewer c between, steps = fewer + 1 ∧ text = c :: between ∧ chars c = true ∧
      Accepts code fewer next (some c) between rest := by
  cases accepts with
  | accept there => cases here.symm.trans there
  | consume there member _ further =>
    cases here.symm.trans there
    exact ⟨_, _, _, rfl, rfl, member, further⟩
  | check there => cases here.symm.trans there
  | preferred there => cases here.symm.trans there
  | other there => cases here.symm.trans there

theorem Accepts.of_check {condition : Look} {next : Nat}
    (here : code[position]? = some (.check condition next)) :
    ∃ fewer, steps = fewer + 1 ∧ condition.holds before text.head? = true ∧
      Accepts code fewer next before text rest := by
  cases accepts with
  | accept there => cases here.symm.trans there
  | consume there => cases here.symm.trans there
  | check there holds further =>
    cases here.symm.trans there
    exact ⟨_, rfl, holds, further⟩
  | preferred there => cases here.symm.trans there
  | other there => cases here.symm.trans there

theorem Accepts.of_split {preferred other : Nat}
    (here : code[position]? = some (.split preferred other)) :
    ∃ fewer, steps = fewer + 1 ∧
      (Accepts code fewer preferred before text rest ∨ Accepts code fewer other before text rest) := by
  cases accepts with
  | accept there => cases here.symm.trans there
  | consume there => cases here.symm.trans there
  | check there => cases here.symm.trans there
  | preferred there further =>
    cases here.symm.trans there
    exact ⟨_, rfl, Or.inl further⟩
  | other there further =>
    cases here.symm.trans there
    exact ⟨_, rfl, Or.inr further⟩

/-- The preference of a split does not matter for what it accepts. -/
theorem Accepts.of_split_either {greedy : Bool} {enter next : Nat}
    (here : code[position]? = some (if greedy then .split enter next else .split next enter)) :
    ∃ fewer, steps = fewer + 1 ∧
      (Accepts code fewer enter before text rest ∨ Accepts code fewer next before text rest) := by
  cases greedy with
  | true => exact accepts.of_split here
  | false =>
    rcases accepts.of_split here with ⟨fewer, shorter, further⟩
    exact ⟨fewer, shorter, further.symm⟩

end

/-- A way that begins with the instructions of a pattern goes through a match of the pattern.  After a round of
a repetition it is at the split again, and the rest of it is shorter. -/
theorem Accepts.through_pattern {final : Array Instruction} (pattern : Pattern) {next : Nat}
    {code : Array Instruction} (contains : Contains final pattern next code) {steps : Nat}
    {before : Option Char} {text rest : Text}
    (accepts : Accepts final steps (emit pattern next code).1 before text rest) :
    ∃ fewer after between, fewer ≤ steps ∧ pattern.Matches before text after between ∧
      Accepts final fewer next after between rest := by
  induction pattern generalizing next code steps before text rest with
  | empty => exact ⟨steps, before, text, Nat.le_refl _, .empty before text, accepts⟩
  | set chars =>
    rcases accepts.of_consume contains.of_set with ⟨fewer, c, between, rfl, rfl, member, further⟩
    exact ⟨fewer, some c, between, Nat.le_succ _, .set member before between, further⟩
  | look condition =>
    rcases accepts.of_check contains.of_look with ⟨fewer, rfl, holds, further⟩
    exact ⟨fewer, before, text, Nat.le_succ _, .look holds, further⟩
  | seq first second firstIH secondIH =>
    rcases contains.of_seq with ⟨containsFirst, containsSecond⟩
    rcases firstIH containsFirst accepts with ⟨between, middle, place, short, left, further⟩
    rcases secondIH containsSecond further with ⟨fewer, after, last, shorter, right, onward⟩
    exact ⟨fewer, after, last, Nat.le_trans shorter short, .seq left right, onward⟩
  | choice first second firstIH secondIH =>
    rcases contains.of_choice with ⟨containsFirst, containsSecond, here⟩
    rcases accepts.of_split here with ⟨fewer, rfl, left | right⟩
    · rcases firstIH containsFirst left with ⟨least, after, between, short, matched, further⟩
      exact ⟨least, after, between, Nat.le_succ_of_le short, .choiceFirst second matched, further⟩
    · rcases secondIH containsSecond right with ⟨least, after, between, short, matched, further⟩
      exact ⟨least, after, between, Nat.le_succ_of_le short, .choiceSecond first matched, further⟩
  | optional body greedy ih =>
    rcases contains.of_optional with ⟨containsBody, here⟩
    rcases accepts.of_split_either here with ⟨fewer, rfl, taken | skipped⟩
    · rcases ih containsBody taken with ⟨least, after, between, short, matched, further⟩
      exact ⟨least, after, between, Nat.le_succ_of_le short, .optionalTake greedy matched, further⟩
    · exact ⟨fewer, before, text, Nat.le_succ _, .optionalSkip body greedy before text, skipped⟩
  | repeated body greedy ih =>
    rcases contains.of_repeated with ⟨containsBody, here⟩
    induction steps using Nat.strongRecOn generalizing before text with
    | ind steps rounds =>
      rcases ih containsBody accepts with ⟨fewer, middle, place, short, matched, further⟩
      rcases further.of_split_either here with ⟨least, rfl, again | done⟩
      · rcases rounds least short again with ⟨last, after, between, shorter, more, onward⟩
        exact ⟨last, after, between, Nat.le_trans shorter (Nat.le_of_succ_le short),
          .repeatedMore matched more, onward⟩
      · exact ⟨least, middle, place, Nat.le_of_succ_le short, .repeatedLast greedy matched, done⟩

/-- What is accepted from the start of a compiled pattern is matched by the pattern. -/
theorem Reaches.matches {pattern : Pattern} {before : Option Char} {text rest : Text}
    (reaches : Reaches (compile pattern).instructions (compile pattern).start before text rest) :
    ∃ after, pattern.Matches before text after rest := by
  rcases reaches with ⟨steps, accepts⟩
  have contains : Contains (compile pattern).instructions pattern 0 #[.accept] := fun _ _ _ => rfl
  rcases Accepts.through_pattern pattern contains accepts with
    ⟨fewer, after, between, _, matched, further⟩
  have atEnd : (compile pattern).instructions[0]? = some .accept :=
    getElem?_emit pattern 0 #[.accept] Nat.zero_lt_one
  have done : between = rest := by
    cases further with
    | accept => rfl
    | consume there => cases atEnd.symm.trans there
    | check there => cases atEnd.symm.trans there
    | preferred there => cases atEnd.symm.trans there
    | other there => cases atEnd.symm.trans there
  exact ⟨after, done ▸ matched⟩

/-! ## Threads -/

/-- What the thread of an instruction does, the instruction does.  A thread that waits for a character
stands for the ways that go on after it. -/
def Thread.Continues (code : Array Instruction) (position : Nat) (before : Option Char) (text : Text) :
    Thread → Prop
  | .matched => Reaches code position before text text
  | .waiting chars next => ∀ c later rest, text = c :: later → chars c = true →
      Reaches code next (some c) later rest → Reaches code position before text rest

theorem Thread.Continues.before {code : Array Instruction} {position next : Nat} {before : Option Char}
    {text : Text} {thread : Thread}
    (step : ∀ rest, Reaches code next before text rest → Reaches code position before text rest)
    (continues : thread.Continues code next before text) : thread.Continues code position before text := by
  cases thread with
  | matched => exact step _ continues
  | waiting chars onward =>
    intro c later rest isText member reaches
    exact step _ (continues c later rest isText member reaches)

/-- Every thread at a place comes from one of the pending instructions. -/
theorem exists_continues_of_mem_threadsWithin {code : Array Instruction} {before : Option Char} {text : Text}
    {budget : Nat} {seen pending : List Nat} {thread : Thread}
    (member : thread ∈ threadsWithin code before text.head? budget seen pending) :
    ∃ position ∈ pending, thread.Continues code position before text := by
  have pendingBefore {position : Nat} {rest : List Nat}
      (found : ∃ other ∈ rest, thread.Continues code other before text) :
      ∃ other ∈ position :: rest, thread.Continues code other before text := by
    rcases found with ⟨other, listed, continues⟩
    exact ⟨other, List.mem_cons_of_mem _ listed, continues⟩
  fun_induction threadsWithin code before text.head? budget seen pending with
  | case1 => cases member
  | case2 => cases member
  | case3 budget seen position rest visited ih => exact pendingBefore (ih member)
  | case4 budget seen position rest new seen' chars next here ih =>
    rcases List.mem_cons.mp member with rfl | among
    · refine ⟨position, List.mem_cons_self, ?_⟩
      rintro c onward after rfl accepted ⟨steps, further⟩
      exact ⟨steps + 1, .consume here accepted before further⟩
    · exact pendingBefore (ih among)
  | case5 budget seen position rest new seen' condition next here ih =>
    rcases ih member with ⟨other, listed, continues⟩
    split at listed
    · rename_i holds
      rcases List.mem_cons.mp listed with rfl | pending
      · refine ⟨position, List.mem_cons_self, continues.before ?_⟩
        rintro after ⟨steps, further⟩
        exact ⟨steps + 1, .check here holds further⟩
      · exact pendingBefore ⟨other, pending, continues⟩
    · exact pendingBefore ⟨other, listed, continues⟩
  | case6 budget seen position rest new seen' preferred other here ih =>
    rcases ih member with ⟨chosen, listed, continues⟩
    rcases List.mem_cons.mp listed with rfl | listed
    · refine ⟨position, List.mem_cons_self, continues.before ?_⟩
      rintro after ⟨steps, further⟩
      exact ⟨steps + 1, .preferred here further⟩
    · rcases List.mem_cons.mp listed with rfl | pending
      · refine ⟨position, List.mem_cons_self, continues.before ?_⟩
        rintro after ⟨steps, further⟩
        exact ⟨steps + 1, .other here further⟩
      · exact pendingBefore ⟨chosen, pending, continues⟩
  | case7 budget seen position rest new here =>
    cases List.mem_singleton.mp member
    exact ⟨position, List.mem_cons_self, 0, .accept here before text⟩
  | case8 budget seen position rest new seen' nowhere ih => exact pendingBefore (ih member)

section

variable {code : Array Instruction} {before : Option Char} {pending : List Nat}

theorem exists_reaches_of_matched {text : Text}
    (matched : (threads code before text.head? pending).any Thread.isMatched = true) :
    ∃ position ∈ pending, Reaches code position before text text := by
  rcases List.any_eq_true.mp matched with ⟨thread, member, isMatched⟩
  cases thread with
  | matched => exact exists_continues_of_mem_threadsWithin member
  | waiting => cases isMatched

theorem exists_reaches_of_advance {c : Char} {text rest : Text} {next : Nat}
    (advanced : next ∈ (threads code before (some c) pending).filterMap (Thread.advance c))
    (further : Reaches code next (some c) text rest) :
    ∃ position ∈ pending, Reaches code position before (c :: text) rest := by
  rcases List.mem_filterMap.mp advanced with ⟨thread, member, goes⟩
  cases thread with
  | matched => cases goes
  | waiting chars onward =>
    rw [Thread.advance] at goes
    split at goes
    · rename_i accepted
      cases goes
      have among : Thread.waiting chars next ∈ threads code before (c :: text).head? pending := member
      rcases exists_continues_of_mem_threadsWithin among with ⟨position, listed, continues⟩
      exact ⟨position, listed, continues c text rest rfl accepted further⟩
    · cases goes

end

/-- What a run leaves was left by the best match before it, or is accepted from the instructions that the run
was given, or is accepted from the start of the program at a later place.  A match at the first place comes
from the instructions given; as long as there is none, the program is also started anew after each character. -/
theorem reaches_of_run {program : Program} {before : Option Char} {seeds : List Nat}
    {best : Option Text} {text rest : Text} (found : program.run before seeds best text = some rest) :
    best = some rest ∨ (∃ position ∈ seeds, Reaches program.instructions position before text rest) ∨
      ∃ skipped c later, text = skipped ++ c :: later ∧
        Reaches program.instructions program.start (some c) later rest := by
  induction text generalizing before seeds best with
  | nil =>
    rw [run] at found
    split at found
    · rename_i matched
      cases found
      exact Or.inr (Or.inl (exists_reaches_of_matched matched))
    · exact Or.inl found
  | cons c text ih =>
    rw [run] at found
    generalize isBest : (if (threads program.instructions before (some c) seeds).any Thread.isMatched = true
      then some (c :: text) else best) = bestHere at found
    generalize isSeeds : (if bestHere.isNone = true then (threads program.instructions before (some c)
      seeds).filterMap (Thread.advance c) ++ [program.start] else (threads program.instructions before
      (some c) seeds).filterMap (Thread.advance c)) = onward at found
    have ofBest (isRest : bestHere = some rest) : best = some rest ∨
        ∃ position ∈ seeds, Reaches program.instructions position before (c :: text) rest := by
      split at isBest
      · rename_i matched
        cases isBest.trans isRest
        exact Or.inr (exists_reaches_of_matched matched)
      · exact Or.inl (isBest.trans isRest)
    split at found
    · exact (ofBest found).imp_right Or.inl
    · rcases ih found with isRest | ⟨position, listed, further⟩ | ⟨skipped, d, later, rfl, reaches⟩
      · exact (ofBest isRest).imp_right Or.inl
      · have seeded : position ∈ (threads program.instructions before (some c) seeds).filterMap
            (Thread.advance c) ∨ position = program.start := by
          split at isSeeds
          · rw [← isSeeds] at listed
            exact (List.mem_append.mp listed).imp_right List.mem_singleton.mp
          · rw [← isSeeds] at listed
            exact Or.inl listed
        rcases seeded with advanced | rfl
        · exact Or.inr (Or.inl (exists_reaches_of_advance advanced further))
        · exact Or.inr (Or.inr ⟨[], c, text, rfl, further⟩)
      · exact Or.inr (Or.inr ⟨c :: skipped, d, later, rfl, reaches⟩)

/-- A compiled pattern finds a match at the start of the text or after a character of it. -/
theorem matches_of_afterMatch? {pattern : Pattern} {text rest : Text}
    (found : (compile pattern).afterMatch? text = some rest) :
    (∃ after, pattern.Matches none text after rest) ∨
      ∃ skipped c later after, text = skipped ++ c :: later ∧
        pattern.Matches (some c) later after rest := by
  rcases reaches_of_run found with nothing | ⟨position, listed, reaches⟩ |
    ⟨skipped, c, later, whole, reaches⟩
  · cases nothing
  · cases List.mem_singleton.mp listed
    exact Or.inl reaches.matches
  · rcases reaches.matches with ⟨after, matched⟩
    exact Or.inr ⟨skipped, c, later, after, whole, matched⟩

/-- A pattern that is held to the start of the text matches nowhere else. -/
theorem matches_of_anchored {pattern : Pattern} {text rest : Text}
    (found : (compile (.seq (.look .textStart) pattern)).afterMatch? text = some rest) :
    ∃ after, pattern.Matches none text after rest := by
  rcases matches_of_afterMatch? found with ⟨after, matched⟩ | ⟨_, _, _, _, _, matched⟩
  · cases matched with
    | seq left right =>
      cases left
      exact ⟨after, right⟩
  · cases matched with
    | seq left right =>
      cases left with
      | look holds => cases holds

end Program

end Marginalia
