import Mathlib.Data.Finset.Card
import Mathlib.Data.Finset.Range
import Marginalia.Proofs.Pattern.Matching

/-!
# What a compiled pattern does not miss

Where a pattern matches at the start of a text, the program that is compiled from it finds a match.  Which of
several matches it is, and whether it is this one, is not said.

A match gives a way through the instructions, and a run goes on with every such way until it has found
something.  An instruction is visited once at each place, so a way may come to an instruction that is not
expanded again.  What comes next on the way is pending then, or was visited too, and from there on the way
is shorter: `Program.Followed` says that ways do not get lost in this manner.  The steps that are allowed at a
place suffice because each instruction is expanded once.
-/

namespace Marginalia.Program

/-! ## From matches to ways -/

theorem Reaches.of_split {code : Array Instruction} {position enter next : Nat} {greedy : Bool}
    {before : Option Char} {text rest : Text}
    (here : code[position]? = some (if greedy then .split enter next else .split next enter))
    (further : Reaches code enter before text rest ∨ Reaches code next before text rest) :
    Reaches code position before text rest := by
  cases greedy with
  | true =>
    rcases further with ⟨steps, further⟩ | ⟨steps, further⟩
    · exact ⟨steps + 1, .preferred here further⟩
    · exact ⟨steps + 1, .other here further⟩
  | false =>
    rcases further with ⟨steps, further⟩ | ⟨steps, further⟩
    · exact ⟨steps + 1, .other here further⟩
    · exact ⟨steps + 1, .preferred here further⟩

/-- A match of a pattern and a way from its end give a way from the instructions of the pattern. -/
theorem Reaches.of_matches {final : Array Instruction} {pattern : Pattern} {next : Nat}
    {code : Array Instruction} (contains : Contains final pattern next code) {before after : Option Char}
    {text between rest : Text} (matched : pattern.Matches before text after between)
    (further : Reaches final next after between rest) :
    Reaches final (emit pattern next code).1 before text rest := by
  induction matched generalizing next code with
  | empty => exact further
  | set member before later =>
    rcases further with ⟨steps, further⟩
    exact ⟨steps + 1, .consume contains.of_set member before further⟩
  | look holds =>
    rcases further with ⟨steps, further⟩
    exact ⟨steps + 1, .check contains.of_look holds further⟩
  | seq _ _ leftIH rightIH =>
    rcases contains.of_seq with ⟨containsFirst, containsSecond⟩
    exact leftIH containsFirst (rightIH containsSecond further)
  | choiceFirst second _ ih =>
    rcases contains.of_choice with ⟨containsFirst, _, here⟩
    rcases ih containsFirst further with ⟨steps, further⟩
    exact ⟨steps + 1, .preferred here further⟩
  | choiceSecond first _ ih =>
    rcases contains.of_choice with ⟨_, containsSecond, here⟩
    rcases ih containsSecond further with ⟨steps, further⟩
    exact ⟨steps + 1, .other here further⟩
  | optionalSkip => exact .of_split contains.of_optional.2 (Or.inr further)
  | optionalTake greedy _ ih =>
    rcases contains.of_optional with ⟨containsBody, here⟩
    exact .of_split here (Or.inl (ih containsBody further))
  | repeatedLast greedy _ ih =>
    rcases contains.of_repeated with ⟨containsBody, here⟩
    exact ih containsBody (.of_split here (Or.inr further))
  | repeatedMore _ _ firstIH moreIH =>
    rcases contains.of_repeated with ⟨containsBody, here⟩
    exact firstIH containsBody (.of_split here (Or.inl (moreIH contains further)))

/-! ## From ways to threads -/

/-- The number of instructions that have not been visited. -/
def fresh (code : Array Instruction) (seen : List Nat) : Nat :=
  ((Finset.range code.size).filter (· ∉ seen)).card

theorem unvisited_subset (code : Array Instruction) (position : Nat) (seen : List Nat) :
    (Finset.range code.size).filter (· ∉ position :: seen) ⊆ (Finset.range code.size).filter (· ∉ seen) := by
  intro other
  simp only [Finset.mem_filter, List.mem_cons, not_or]
  exact fun ⟨inCode, _, new⟩ => ⟨inCode, new⟩

theorem fresh_cons_le (code : Array Instruction) (position : Nat) (seen : List Nat) :
    fresh code (position :: seen) ≤ fresh code seen :=
  Finset.card_le_card (unvisited_subset code position seen)

theorem fresh_cons_lt {code : Array Instruction} {position : Nat} {seen : List Nat}
    {instruction : Instruction} (here : code[position]? = some instruction) (new : position ∉ seen) :
    fresh code (position :: seen) < fresh code seen := by
  have inCode := (Array.getElem?_eq_some_iff.mp here).1
  apply Finset.card_lt_card
  rw [Finset.ssubset_iff_of_subset (unvisited_subset code position seen)]
  exact ⟨position, by simp [inCode, new], by simp⟩

section

variable {code : Array Instruction} {before : Option Char} {text rest : Text} {seen pending : List Nat}

/-- A way begins at a pending instruction, and a way that begins at a visited one leads to a shorter one
that begins at a pending one. -/
structure Followed (code : Array Instruction) (before : Option Char) (text rest : Text)
    (seen pending : List Nat) : Prop where
  ofPending : ∃ position ∈ pending, Reaches code position before text rest
  ofSeen : ∀ position ∈ seen, ∀ steps, Accepts code steps position before text rest →
    ∃ other ∈ pending, ∃ fewer < steps, Accepts code fewer other before text rest

/-- An instruction that has been visited before can be passed over.  The shorter way that goes on from it may
begin at the same instruction again, but not forever. -/
theorem Followed.skip {position : Nat} (followed : Followed code before text rest seen (position :: pending))
    (visited : position ∈ seen) : Followed code before text rest seen pending := by
  have onward (steps : Nat) : ∀ other ∈ position :: pending, Accepts code steps other before text rest →
      ∃ last ∈ pending, ∃ fewer ≤ steps, Accepts code fewer last before text rest := by
    induction steps using Nat.strongRecOn with
    | ind steps ih =>
      intro other listed accepts
      rcases List.mem_cons.mp listed with rfl | among
      · rcases followed.ofSeen _ visited steps accepts with ⟨next, listed, fewer, short, further⟩
        rcases ih fewer short next listed further with ⟨last, among, fewest, shorter, done⟩
        exact ⟨last, among, fewest, Nat.le_of_lt (Nat.lt_of_le_of_lt shorter short), done⟩
      · exact ⟨other, among, steps, Nat.le_refl _, accepts⟩
  constructor
  · rcases followed.ofPending with ⟨other, listed, steps, accepts⟩
    rcases onward steps other listed accepts with ⟨last, among, fewer, _, further⟩
    exact ⟨last, among, fewer, further⟩
  · intro other inSeen steps accepts
    rcases followed.ofSeen other inSeen steps accepts with ⟨next, listed, fewer, short, further⟩
    rcases onward fewer next listed further with ⟨last, among, fewest, shorter, done⟩
    exact ⟨last, among, fewest, Nat.lt_of_le_of_lt shorter short, done⟩

/-- A pending instruction can be replaced by what comes next on every way from it. -/
theorem Followed.expand {position : Nat} (followed : Followed code before text rest seen (position :: pending))
    {onward : List Nat} (kept : pending ⊆ onward)
    (next : ∀ steps, Accepts code steps position before text rest →
      ∃ other ∈ onward, ∃ fewer < steps, Accepts code fewer other before text rest) :
    Followed code before text rest (position :: seen) onward := by
  have later {other steps : Nat} (listed : other ∈ position :: pending)
      (accepts : Accepts code steps other before text rest) :
      ∃ last ∈ onward, ∃ fewer ≤ steps, Accepts code fewer last before text rest := by
    rcases List.mem_cons.mp listed with rfl | among
    · rcases next steps accepts with ⟨last, member, fewer, short, further⟩
      exact ⟨last, member, fewer, Nat.le_of_lt short, further⟩
    · exact ⟨other, kept among, steps, Nat.le_refl _, accepts⟩
  constructor
  · rcases followed.ofPending with ⟨other, listed, steps, accepts⟩
    rcases later listed accepts with ⟨last, member, fewer, _, further⟩
    exact ⟨last, member, fewer, further⟩
  · intro other visited steps accepts
    rcases List.mem_cons.mp visited with rfl | inSeen
    · exact next steps accepts
    · rcases followed.ofSeen other inSeen steps accepts with ⟨further, listed, fewer, short, goesOn⟩
      rcases later listed goesOn with ⟨last, member, fewest, shorter, done⟩
      exact ⟨last, member, fewest, Nat.lt_of_le_of_lt shorter short, done⟩

/-- An instruction from which no way begins can be dropped. -/
theorem Followed.drop {position : Nat} (followed : Followed code before text rest seen (position :: pending))
    (nowhere : ¬ Reaches code position before text rest) :
    Followed code before text rest (position :: seen) pending :=
  followed.expand (List.Subset.refl _) fun steps accepts => absurd ⟨steps, accepts⟩ nowhere

/-- The thread has matched, or it goes on with a way. -/
def Thread.Carries (code : Array Instruction) (text rest : Text) : Thread → Prop
  | .matched => True
  | .waiting chars next => ∃ c later, text = c :: later ∧ chars c = true ∧
      Reaches code next (some c) later rest

/-- A way that is followed is carried on by one of the threads. -/
theorem exists_carries_of_followed {budget : Nat} (followed : Followed code before text rest seen pending)
    (enough : pending.length + 2 * fresh code seen < budget) :
    ∃ thread ∈ threadsWithin code before text.head? budget seen pending, thread.Carries code text rest := by
  fun_induction threadsWithin code before text.head? budget seen pending with
  | case1 => exact absurd enough (Nat.not_lt_zero _)
  | case2 =>
    rcases followed.ofPending with ⟨_, listed, _⟩
    cases listed
  | case3 budget seen position pending visited ih =>
    rw [List.length_cons] at enough
    exact ih (followed.skip visited) (by omega)
  | case4 budget seen position pending new seen' chars next here ih =>
    have fewer : fresh code seen' < fresh code seen := fresh_cons_lt here new
    rw [List.length_cons] at enough
    by_cases reaches : Reaches code position before text rest
    · rcases reaches with ⟨steps, accepts⟩
      rcases accepts.of_consume here with ⟨fewer, c, later, _, isText, member, further⟩
      exact ⟨_, List.mem_cons_self, c, later, isText, member, fewer, further⟩
    · rcases ih (followed.drop reaches) (by omega) with ⟨thread, listed, carries⟩
      exact ⟨thread, List.mem_cons_of_mem _ listed, carries⟩
  | case5 budget seen position pending new seen' condition next here ih =>
    have fewer : fresh code seen' < fresh code seen := fresh_cons_lt here new
    rw [List.length_cons] at enough
    apply ih
    · split
      · apply followed.expand (List.subset_cons_self next pending)
        intro steps accepts
        rcases accepts.of_check here with ⟨fewer, rfl, _, further⟩
        exact ⟨next, List.mem_cons_self, fewer, Nat.lt_succ_self _, further⟩
      · rename_i fails
        apply followed.drop
        rintro ⟨steps, accepts⟩
        rcases accepts.of_check here with ⟨_, _, holds, _⟩
        exact fails holds
    · split
      · rw [List.length_cons]
        omega
      · omega
  | case6 budget seen position pending new seen' preferred other here ih =>
    have fewer : fresh code seen' < fresh code seen := fresh_cons_lt here new
    rw [List.length_cons] at enough
    apply ih
    · have kept := List.subset_cons_of_subset preferred (List.subset_cons_self other pending)
      apply followed.expand kept
      intro steps accepts
      rcases accepts.of_split here with ⟨fewer, rfl, left | right⟩
      · exact ⟨preferred, List.mem_cons_self, fewer, Nat.lt_succ_self _, left⟩
      · exact ⟨other, List.mem_cons_of_mem _ List.mem_cons_self, fewer, Nat.lt_succ_self _, right⟩
    · rw [List.length_cons, List.length_cons]
      omega
  | case7 => exact ⟨.matched, List.mem_singleton_self _, trivial⟩
  | case8 budget seen position pending new seen' nowhere ih =>
    have notMore : fresh code seen' ≤ fresh code seen := fresh_cons_le code position seen
    rw [List.length_cons] at enough
    apply ih
    · apply followed.drop
      rintro ⟨steps, accepts⟩
      cases accepts <;> simp_all
    · omega

/-- The steps that are allowed at a place are enough for every way. -/
theorem exists_carries_of_reaches {position : Nat} (listed : position ∈ pending)
    (reaches : Reaches code position before text rest) :
    ∃ thread ∈ threads code before text.head? pending, thread.Carries code text rest := by
  apply exists_carries_of_followed
  · exact ⟨⟨position, listed, reaches⟩, fun _ visited => absurd visited List.not_mem_nil⟩
  · have atMost : fresh code [] ≤ code.size := by
      simp [fresh]
    omega

end

/-! ## Runs -/

/-- One step of a run: a match here is kept, and every thread that accepts the character goes on. -/
theorem exists_run_cons (program : Program) (before : Option Char) (seeds : List Nat) (best : Option Text)
    (c : Char) (text : Text) :
    ∃ bestHere onward,
      bestHere = (if (threads program.instructions before (some c) seeds).any Thread.isMatched
        then some (c :: text) else best) ∧
      (threads program.instructions before (some c) seeds).filterMap (Thread.advance c) ⊆ onward ∧
      program.run before seeds best (c :: text) =
        if onward.isEmpty then bestHere else program.run (some c) onward bestHere text := by
  refine ⟨_, _, rfl, ?_, rfl⟩
  generalize ite ((threads program.instructions before (some c) seeds).any Thread.isMatched = true) _ _ = bestHere
  split
  · exact List.subset_append_left _ _
  · exact List.Subset.refl _

theorem isSome_run_of_best {program : Program} {before : Option Char} {seeds : List Nat}
    {best : Option Text} (found : best.isSome = true) (text : Text) :
    (program.run before seeds best text).isSome = true := by
  induction text generalizing before seeds best with
  | nil =>
    rw [run]
    split
    · rfl
    · exact found
  | cons c text ih =>
    rcases exists_run_cons program before seeds best c text with ⟨bestHere, onward, isBest, _, isRun⟩
    have foundHere : bestHere.isSome = true := by
      rw [isBest]
      split
      · rfl
      · exact found
    rw [isRun]
    split
    · exact foundHere
    · exact ih foundHere

/-- A run that is given an instruction from which a way begins finds something. -/
theorem isSome_run_of_reaches {program : Program} {before : Option Char} {seeds : List Nat}
    (best : Option Text) {text rest : Text} {position : Nat} (listed : position ∈ seeds)
    (reaches : Reaches program.instructions position before text rest) :
    (program.run before seeds best text).isSome = true := by
  induction text generalizing before seeds best position with
  | nil =>
    rcases exists_carries_of_reaches listed reaches with ⟨thread, member, carries⟩
    cases thread with
    | matched =>
      have matched : (threads program.instructions before none seeds).any Thread.isMatched = true :=
        List.any_eq_true.mpr ⟨_, member, rfl⟩
      rw [run, if_pos matched]
      rfl
    | waiting chars next =>
      rcases carries with ⟨c, later, isText, _⟩
      cases isText
  | cons c text ih =>
    rcases exists_carries_of_reaches listed reaches with ⟨thread, member, carries⟩
    rcases exists_run_cons program before seeds best c text with
      ⟨bestHere, onward, isBest, goesOn, isRun⟩
    rw [isRun]
    cases thread with
    | matched =>
      have matched : (threads program.instructions before (some c) seeds).any Thread.isMatched = true :=
        List.any_eq_true.mpr ⟨_, member, rfl⟩
      rw [if_pos matched] at isBest
      split
      · rw [isBest]
        rfl
      · exact isSome_run_of_best (by rw [isBest]; rfl) text
    | waiting chars next =>
      rcases carries with ⟨_, _, isText, accepted, further⟩
      cases isText
      have inOnward : next ∈ onward :=
        goesOn (List.mem_filterMap.mpr ⟨_, member, by rw [Thread.advance, if_pos accepted]⟩)
      rw [if_neg (by simpa using List.ne_nil_of_mem inOnward)]
      exact ih bestHere inOnward further

/-- Where a pattern matches at the start of a text, its program finds a match. -/
theorem isSome_afterMatch?_of_matches {pattern : Pattern} {text rest : Text} {after : Option Char}
    (matched : pattern.Matches none text after rest) :
    ((compile pattern).afterMatch? text).isSome = true := by
  have contains : Contains (compile pattern).instructions pattern 0 #[.accept] := fun _ _ _ => rfl
  have atEnd : (compile pattern).instructions[0]? = some .accept :=
    getElem?_emit pattern 0 #[.accept] Nat.zero_lt_one
  have ended : Reaches (compile pattern).instructions 0 after rest rest := ⟨0, .accept atEnd after rest⟩
  exact isSome_run_of_reaches none List.mem_cons_self (Reaches.of_matches contains matched ended)

end Marginalia.Program
