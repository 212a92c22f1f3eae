import Mathlib.Data.List.Basic
import Marginalia.Pattern.Parser
import Marginalia.Proofs.Text.Leads

/-!
# A pattern read inside a group

A text that is read as a pattern is read as the same pattern when a closing parenthesis follows it, and the
parenthesis is left over.  The exception is a comment of the extended notation at the end of the text: it
goes on to the end of what is read, so the parenthesis is part of the comment.

Each part of the reader keeps this relation between what is left to read with the parenthesis and without
it.  Nothing is said about a text that is not read as a pattern: with a parenthesis behind it such a text can
be accepted, and then it is the text that closes the group.
-/

namespace Marginalia.Pattern.Parser

/-- What is left to read without a closing parenthesis at the end, and with it.  The parenthesis is there
unless a comment that reaches the end has swallowed it. -/
inductive Closed : Input → Input → Prop
  | behind (input : Input) : Closed input (input ++ [')'])
  | swallowed : Closed [] []

/-- If the first reading has a result, the second has one that is related to it. -/
inductive Kept {α β : Type} (related : α → β → Prop) : Option α → Option β → Prop
  | refused (second : Option β) : Kept related none second
  | read {a : α} {b : β} (results : related a b) : Kept related (some a) (some b)

/-- The same was read, and the parenthesis is still behind. -/
inductive Alike {α : Type} : α × Input → α × Input → Prop
  | intro (value : α) {rest rest' : Input} (closed : Closed rest rest') : Alike (value, rest) (value, rest')

section Kept

variable {α β γ δ : Type} {related : α → β → Prop} {related' : γ → δ → Prop}

theorem Kept.bind {first : Option α} {second : Option β} {next : α → Option γ} {next' : β → Option δ}
    (kept : Kept related first second)
    (onward : ∀ a b, related a b → Kept related' (next a) (next' b)) :
    Kept related' (first >>= next) (second >>= next') := by
  cases kept with
  | refused => exact .refused _
  | read results => exact onward _ _ results

theorem Kept.bind_same {first : Option α} {next : α → Option γ} {next' : α → Option δ}
    (onward : ∀ a, Kept related' (next a) (next' a)) :
    Kept related' (first >>= next) (first >>= next') := by
  cases first with
  | none => exact .refused _
  | some a => exact onward a

theorem Kept.map_same {first : Option α} {next : α → γ} {next' : α → δ}
    (onward : ∀ a, related' (next a) (next' a)) :
    Kept related' (first.map next) (first.map next') := by
  cases first with
  | none => exact .refused _
  | some a => exact .read (onward a)

end Kept

/-! ## What is skipped -/

theorem Closed.eq_of_cons {c : Char} {rest input' : Input} (closed : Closed (c :: rest) input') :
    input' = c :: (rest ++ [')']) := by
  cases closed
  rfl

theorem Closed.nil_or_cons {input input' : Input} (closed : Closed input input') :
    input = [] ∨ ∃ c rest, input = c :: rest ∧ input' = c :: (rest ++ [')']) := by
  cases input with
  | nil => exact Or.inl rfl
  | cons c rest => exact Or.inr ⟨c, rest, rfl, closed.eq_of_cons⟩

theorem Closed.length_le {input input' : Input} (closed : Closed input input') :
    input.length ≤ input'.length := by
  cases closed with
  | behind => simp
  | swallowed => exact Nat.le_refl _

theorem Closed.skipComments (inComment : Bool) {input input' : Input} (closed : Closed input input') :
    Closed (skipComments inComment input) (skipComments inComment input') := by
  cases closed with
  | swallowed => exact .swallowed
  | behind =>
    induction input generalizing inComment with
    | nil =>
      cases inComment with
      | true => exact .swallowed
      | false => exact .behind []
    | cons c rest ih =>
      rw [List.cons_append, Parser.skipComments, Parser.skipComments]
      split
      · exact ih _
      · split
        · exact ih _
        · split
          · exact ih _
          · exact .behind (c :: rest)

theorem Closed.skip (flags : Flags) {input input' : Input} (closed : Closed input input') :
    Closed (skip flags input) (skip flags input') := by
  rw [Parser.skip, Parser.skip]
  split
  · exact closed.skipComments false
  · exact closed

/-- Skipping leaves no more than there was. -/
theorem length_skip_le (flags : Flags) (input : Input) : (skip flags input).length ≤ input.length := by
  have skipped (inComment : Bool) : (skipComments inComment input).length ≤ input.length := by
    fun_induction skipComments inComment input with
    | case1 => exact Nat.le_refl _
    | case2 c rest ih => exact Nat.le_succ_of_le ih
    | case3 inComment c rest _ _ ih => exact Nat.le_succ_of_le ih
    | case4 _ rest _ _ ih => exact Nat.le_succ_of_le ih
    | case5 => exact Nat.le_refl _
  rw [skip]
  split
  · exact skipped false
  · exact Nat.le_refl _

theorem skip_nil (flags : Flags) : skip flags [] = [] := by
  rw [skip]
  split <;> rfl

theorem Closed.dropBlanks {input input' : Input} (closed : Closed input input') :
    Closed (input.dropWhile Text.isBlank) (input'.dropWhile Text.isBlank) := by
  cases closed with
  | swallowed => exact .swallowed
  | behind =>
    rw [List.dropWhile_append]
    split
    · rename_i allBlank
      rw [List.isEmpty_iff.mp allBlank]
      exact .behind []
    · exact .behind _

/-! ## Escapes -/

theorem kept_hexDigits? (flags : Flags) (acc count : Nat) {input input' : Input}
    (closed : Closed input input') :
    Kept Alike (hexDigits? flags acc count input) (hexDigits? flags acc count input') := by
  induction count generalizing acc input input' with
  | zero => exact .read ⟨acc, closed⟩
  | succ count ih =>
    cases input with
    | nil => exact .refused _
    | cons c rest =>
      rw [closed.eq_of_cons, hexDigits?, hexDigits?]
      exact Kept.bind_same fun value => ih _ ((Closed.behind rest).skip flags)

theorem kept_braced? (flags : Flags) {fuel fuel' : Nat} (enough : fuel ≤ fuel') {input input' : Input}
    (closed : Closed input input') :
    Kept Alike (braced? flags fuel input) (braced? flags fuel' input') := by
  induction fuel generalizing fuel' input input' with
  | zero => exact .refused _
  | succ fuel ih =>
    cases fuel' with
    | zero => exact absurd enough (Nat.not_succ_le_zero _)
    | succ fuel' =>
      cases input with
      | nil => exact .refused _
      | cons c rest =>
        rw [closed.eq_of_cons, braced?, braced?]
        split
        · exact .read ⟨[], .behind rest⟩
        · refine (ih (Nat.le_of_succ_le_succ enough) ((Closed.behind rest).skip flags)).bind ?_
          rintro _ _ ⟨inner, closed⟩
          exact .read ⟨c :: inner, closed⟩

theorem kept_hexEscape? (flags : Flags) (count : Nat) {input input' : Input} (closed : Closed input input') :
    Kept Alike (hexEscape? flags count input) (hexEscape? flags count input') := by
  rw [hexEscape?, hexEscape?]
  rcases (closed.skip flags).nil_or_cons with ended | ⟨c, rest, isSkipped, isSkipped'⟩
  · rw [ended]
    exact .refused _
  · rw [isSkipped, isSkipped']
    dsimp only
    have further := (Closed.behind rest).skip flags
    split
    · refine (kept_braced? flags (by simp) further).bind ?_
      rintro _ _ ⟨digits, closed⟩
      exact Kept.bind_same fun value => Kept.bind_same fun char => .read ⟨_, closed.skip flags⟩
    · refine (kept_hexDigits? flags 0 count (Closed.behind (c :: rest))).bind ?_
      rintro _ _ ⟨value, closed⟩
      exact Kept.bind_same fun char => .read ⟨_, closed⟩

theorem kept_propertyEscape? (flags : Flags) (negated : Bool) {input input' : Input}
    (closed : Closed input input') :
    Kept Alike (propertyEscape? flags negated input) (propertyEscape? flags negated input') := by
  rw [propertyEscape?, propertyEscape?]
  rcases (closed.skip flags).nil_or_cons with ended | ⟨c, rest, isSkipped, isSkipped'⟩
  · rw [ended]
    exact .refused _
  · rw [isSkipped, isSkipped']
    dsimp only
    have further := (Closed.behind rest).skip flags
    have onceNamed (first second : Text × Input) (alike : Alike first second) :
        Kept Alike (if flags.unicode then do
            let property ← property? first.1
            let chars ← finishClass? flags (negated != property.1) property.2
            some (Escape.chars chars, first.2) else none)
          (if flags.unicode then do
            let property ← property? second.1
            let chars ← finishClass? flags (negated != property.1) property.2
            some (Escape.chars chars, second.2) else none) := by
      rcases alike with ⟨query, closed⟩
      split
      · exact Kept.bind_same fun property => Kept.bind_same fun chars => .read ⟨_, closed⟩
      · exact .refused _
    split
    · exact (kept_braced? flags (by simp) further).bind onceNamed
    · split
      · exact .refused _
      · exact onceNamed _ _ ⟨[c], further⟩

theorem kept_boundaryName? (flags : Flags) {fuel fuel' : Nat} (enough : fuel ≤ fuel') {input input' : Input}
    (closed : Closed input input') :
    Kept Alike (boundaryName? flags fuel input) (boundaryName? flags fuel' input') := by
  induction fuel generalizing fuel' input input' with
  | zero => exact .refused _
  | succ fuel ih =>
    cases fuel' with
    | zero => exact absurd enough (Nat.not_succ_le_zero _)
    | succ fuel' =>
      cases input with
      | nil => exact .refused _
      | cons c rest =>
        rw [closed.eq_of_cons, boundaryName?, boundaryName?]
        split
        · exact .read ⟨[], .behind rest⟩
        · split
          · refine (ih (Nat.le_of_succ_le_succ enough) ((Closed.behind rest).skip flags)).bind ?_
            rintro _ _ ⟨inner, closed⟩
            exact .read ⟨c :: inner, closed⟩
          · exact .refused _

theorem kept_wordBoundary? (flags : Flags) {input input' : Input} (closed : Closed input input') :
    Kept Alike (wordBoundary? flags input) (wordBoundary? flags input') := by
  cases closed with
  | swallowed => exact .read ⟨_, .swallowed⟩
  | behind =>
    cases input with
    | nil => exact .read ⟨_, .behind []⟩
    | cons c rest =>
      rw [List.cons_append, wordBoundary?, wordBoundary?]
      dsimp only
      have plain := Closed.behind (c :: rest)
      split
      · rcases ((Closed.behind rest).skip flags).nil_or_cons with
          ended | ⟨first, more, isSkipped, isSkipped'⟩
        · rw [ended]
          exact .refused _
        · rw [isSkipped, isSkipped']
          dsimp only
          split
          · refine (kept_boundaryName? flags (by simp) (Closed.behind (first :: more))).bind ?_
            rintro _ _ ⟨name, closed⟩
            dsimp only
            split
            · exact .read ⟨_, closed⟩
            · split
              · exact .read ⟨_, closed⟩
              · split
                · exact .read ⟨_, closed⟩
                · split
                  · exact .read ⟨_, closed⟩
                  · exact .refused _
          · exact .read ⟨_, plain⟩
      · exact .read ⟨_, plain⟩

/-- Most letters after a backslash stand for something at once, or for a class of their own. -/
theorem kept_escape? (flags : Flags) {input input' : Input} (closed : Closed input input') :
    Kept Alike (escape? flags input) (escape? flags input') := by
  cases input with
  | nil => exact .refused _
  | cons c rest =>
    have rest' := Closed.behind rest
    rw [closed.eq_of_cons]
    unfold escape?
    dsimp only
    split
    · exact .refused _
    · split
      · exact .read ⟨_, rest'⟩
      · split
        any_goals exact .read ⟨_, rest'⟩
        any_goals exact Kept.map_same fun chars => ⟨_, rest'⟩
        · exact kept_hexEscape? flags 2 rest'
        · exact kept_hexEscape? flags 4 rest'
        · exact kept_hexEscape? flags 8 rest'
        · exact kept_propertyEscape? flags false rest'
        · exact kept_propertyEscape? flags true rest'
        · exact kept_wordBoundary? flags rest'
        · split
          · exact .read ⟨_, rest'⟩
          · exact .refused _
        · exact .refused _

/-! ## Bracket expressions -/

theorem kept_member? (flags : Flags) {input input' : Input} (closed : Closed input input') :
    Kept Alike (member? flags input) (member? flags input') := by
  cases input with
  | nil => exact .refused _
  | cons c rest =>
    rw [closed.eq_of_cons, member?, member?]
    split
    · have kept := kept_escape? flags (Closed.behind rest)
      generalize escape? flags rest = read at kept ⊢
      generalize escape? flags (rest ++ [')']) = read' at kept ⊢
      cases kept with
      | refused => exact .refused _
      | read alike =>
        rcases alike with ⟨escape, closed⟩
        cases escape with
        | char c => exact .read ⟨_, closed⟩
        | chars set => exact .read ⟨_, closed⟩
        | look condition => exact .refused _
    · exact .read ⟨_, .behind rest⟩

theorem kept_memberOrRange? (flags : Flags) {input input' : Input} (closed : Closed input input') :
    Kept Alike (memberOrRange? flags input) (memberOrRange? flags input') := by
  rw [memberOrRange?, memberOrRange?]
  refine (kept_member? flags closed).bind ?_
  rintro ⟨_, rest⟩ _ ⟨first, closed⟩
  dsimp only
  rcases (closed.skip flags).nil_or_cons with ended | ⟨c, more, isSkipped, isSkipped'⟩
  · rw [ended]
    exact .refused _
  · rw [isSkipped, isSkipped']
    by_cases isHyphen : c = '-'
    · subst isHyphen
      simp only
      rcases ((Closed.behind more).skip flags).nil_or_cons with ended | ⟨d, later, isLater, isLater'⟩
      · rw [ended]
        exact .refused _
      · rw [isLater, isLater']
        dsimp only [List.head?_cons]
        split
        · exact Kept.map_same fun chars => ⟨chars, .behind _⟩
        · exact Kept.map_same fun chars => ⟨chars, .behind _⟩
        · refine (kept_member? flags (Closed.behind (d :: later))).bind ?_
          rintro _ _ ⟨second, closed⟩
          exact Kept.map_same fun chars => ⟨chars, closed⟩
    · simp only [List.cons.injEq, isHyphen, false_and, false_implies, implies_true]
      exact Kept.map_same fun chars => ⟨chars, .behind _⟩

theorem takeWhile_append_of_stop {goesOn : Char → Bool} {input rest : Input} {c : Char}
    (stops : input.dropWhile goesOn = c :: rest) (after : Input) :
    (input ++ after).takeWhile goesOn = input.takeWhile goesOn := by
  have whole := congrArg List.length (List.takeWhile_append_dropWhile (p := goesOn) (l := input))
  rw [stops, List.length_append, List.length_cons] at whole
  rw [List.takeWhile_append, if_neg (by omega)]

theorem posixName?_append (negated : Bool) (input : Input) :
    posixName? negated (input ++ [')']) =
      (posixName? negated input).map fun read => (read.1, read.2 ++ [')']) := by
  rw [posixName?, posixName?, List.dropWhile_append]
  cases stops : input.dropWhile (· != ':') with
  | nil => rfl
  | cons c rest =>
    rw [takeWhile_append_of_stop stops, List.isEmpty_cons, if_neg Bool.false_ne_true, List.cons_append]
    by_cases isColon : c = ':'
    · subst isColon
      cases rest with
      | nil => rfl
      | cons d after =>
        by_cases isBracket : d = ']'
        · subst isBracket
          simp only [List.cons_append, Option.map_map]
          rfl
        · simp [isBracket]
    · simp [isColon]

theorem posix?_append (input : Input) :
    posix? (input ++ [')']) = (posix? input).map fun read => (read.1, read.2 ++ [')']) := by
  cases input with
  | nil => rfl
  | cons c rest =>
    by_cases isColon : c = ':'
    · subst isColon
      cases rest with
      | nil => exact posixName?_append false []
      | cons d rest =>
        by_cases isSign : d = '^'
        · subst isSign
          exact posixName?_append true rest
        · have named := posixName?_append false (d :: rest)
          simpa [posix?, isSign] using named
    · simp [posix?, isColon]

theorem setOp?_append (input : Input) :
    setOp? (input ++ [')']) = (setOp? input).map fun read => (read.1, read.2 ++ [')']) := by
  fun_cases setOp? input with
  | case1 rest => rfl
  | case2 rest => rfl
  | case3 rest => rfl
  | case4 noInter noMinus noSymmDiff =>
    rcases input with _ | ⟨c, _ | ⟨d, rest⟩⟩
    · rfl
    · simp [setOp?]
    · rw [List.cons_append, List.cons_append, setOp?]
      · rfl
      all_goals intro more isMore; simp_all

theorem alike_complementSign (flags : Flags) {input input' : Input} (closed : Closed input input') :
    Alike (complementSign flags input) (complementSign flags input') := by
  cases closed with
  | swallowed => exact ⟨false, .swallowed⟩
  | behind =>
    cases input with
    | nil => exact ⟨false, .behind []⟩
    | cons c rest =>
      by_cases isSign : c = '^'
      · subst isSign
        exact ⟨true, (Closed.behind rest).skip flags⟩
      · simpa [complementSign, isSign] using Alike.intro false (Closed.behind (c :: rest))

theorem alike_leadingHyphens (flags : Flags) (bracket : Bracket) {fuel fuel' : Nat} {input input' : Input}
    (closed : Closed input input') (enough : input.length ≤ fuel) (enough' : input'.length ≤ fuel') :
    Alike (leadingHyphens flags bracket fuel input) (leadingHyphens flags bracket fuel' input') := by
  induction fuel generalizing bracket fuel' input input' with
  | zero =>
    obtain rfl := List.eq_nil_of_length_eq_zero (Nat.le_zero.mp enough)
    cases closed <;> cases fuel' <;> exact ⟨bracket, by constructor⟩
  | succ fuel ih =>
    cases input with
    | nil => cases closed <;> cases fuel' <;> exact ⟨bracket, by constructor⟩
    | cons c rest =>
      rw [closed.eq_of_cons] at enough' ⊢
      cases fuel' with
      | zero => exact absurd enough' (Nat.not_succ_le_zero _)
      | succ fuel' =>
        by_cases isHyphen : c = '-'
        · subst isHyphen
          rw [leadingHyphens, leadingHyphens]
          refine ih _ ((Closed.behind rest).skip flags) ?_ ?_
          · exact (length_skip_le flags rest).trans (Nat.le_of_succ_le_succ enough)
          · exact (length_skip_le flags _).trans (Nat.le_of_succ_le_succ enough')
        · simpa [leadingHyphens, isHyphen] using Alike.intro bracket (Closed.behind (c :: rest))

theorem kept_leadingBracket? (flags : Flags) (bracket : Bracket) {input input' : Input}
    (closed : Closed input input') :
    Kept Alike (leadingBracket? flags bracket input) (leadingBracket? flags bracket input') := by
  cases input with
  | nil => exact .refused _
  | cons c rest =>
    rw [closed.eq_of_cons]
    by_cases isBracket : c = ']'
    · subst isBracket
      rw [leadingBracket?, leadingBracket?]
      split
      · rcases ((Closed.behind rest).skip flags).nil_or_cons with ended | ⟨d, later, isLater, isLater'⟩
        · rw [ended]
          exact .refused _
        · rw [isLater, isLater']
          exact .read ⟨_, .behind (d :: later)⟩
      · exact .read ⟨bracket, .behind (']' :: rest)⟩
    · have plain := Alike.intro bracket (Closed.behind (c :: rest))
      simpa [leadingBracket?, isBracket] using Kept.read plain

theorem kept_openBracket? (flags : Flags) {input input' : Input} (closed : Closed input input') :
    Kept Alike (openBracket? flags input) (openBracket? flags input') := by
  rw [openBracket?, openBracket?]
  have opened := alike_complementSign flags (closed.skip flags)
  generalize complementSign flags (Parser.skip flags input) = sign at opened ⊢
  generalize complementSign flags (Parser.skip flags input') = sign' at opened ⊢
  rcases opened with ⟨negated, closed⟩
  have hyphens := alike_leadingHyphens flags { negated := negated } closed (Nat.le_refl _) (Nat.le_refl _)
  dsimp only
  generalize leadingHyphens flags _ _ _ = start at hyphens ⊢
  generalize leadingHyphens flags _ _ _ = start' at hyphens ⊢
  rcases hyphens with ⟨bracket, closed⟩
  exact kept_leadingBracket? flags bracket closed

/-- A bracket inside opens a named class or a bracket expression of its own, and which of the two it is does not
depend on the parenthesis. -/
theorem kept_bracket? (flags : Flags) {fuel fuel' : Nat} (enough : fuel ≤ fuel') (outer : List Bracket)
    (bracket : Bracket) {input input' : Input} (closed : Closed input input') :
    Kept Alike (bracket? flags fuel outer bracket input) (bracket? flags fuel' outer bracket input') := by
  induction fuel generalizing fuel' outer bracket input input' with
  | zero => exact .refused _
  | succ fuel ih =>
    cases fuel' with
    | zero => exact absurd enough (Nat.not_succ_le_zero _)
    | succ fuel' =>
      have onward (outer : List Bracket) (bracket : Bracket) {rest rest' : Input}
          (closed : Closed rest rest') := ih (Nat.le_of_succ_le_succ enough) outer bracket closed
      rw [bracket?, bracket?]
      rcases (closed.skip flags).nil_or_cons with ended | ⟨c, rest, isSkipped, isSkipped'⟩
      · rw [ended]
        exact .refused _
      · rw [isSkipped, isSkipped']
        by_cases opens : c = '['
        · subst opens
          simp only [posix?_append]
          cases posix? rest with
          | some named => exact Kept.bind_same fun chars => onward _ _ (.behind _)
          | none =>
            refine (kept_openBracket? flags (Closed.behind rest)).bind ?_
            rintro _ _ ⟨inner, closed⟩
            exact onward _ _ closed
        · by_cases closes : c = ']'
          · subst closes
            simp only
            refine Kept.bind_same fun chars => ?_
            cases outer with
            | nil => exact .read ⟨_, .behind rest⟩
            | cons enclosing outer => exact onward _ _ (.behind rest)
          · simp only [List.cons.injEq, opens, closes, false_and, false_implies, implies_true]
            rw [← List.cons_append, setOp?_append]
            cases setOp? (c :: rest) with
            | some sign => exact onward _ _ (.behind _)
            | none =>
              refine (kept_memberOrRange? flags (Closed.behind (c :: rest))).bind ?_
              rintro _ _ ⟨chars, closed⟩
              exact onward _ _ closed

/-! ## Groups -/

/-- The state of a reader inside further groups, with other input. -/
def State.within (state : State) (outer : List OpenGroup) (input : Input) : State :=
  { state with groups := state.groups ++ outer, input := input }

theorem State.within_flags (state : State) (outer : List OpenGroup) (input : Input) :
    (state.within outer input).flags = state.flags := rfl

theorem State.within_groups (state : State) (outer : List OpenGroup) (input : Input) :
    (state.within outer input).groups = state.groups ++ outer := rfl

theorem State.within_names (state : State) (outer : List OpenGroup) (input : Input) :
    (state.within outer input).names = state.names := rfl

/-- Two readers stand alike, the second inside the groups `outer` and with the parenthesis behind. -/
structure Inside (outer : List OpenGroup) (state inner : State) : Prop where
  closed : Closed state.input inner.input
  within : inner = state.within outer inner.input

theorem State.inside_within (state : State) (outer : List OpenGroup) {input : Input}
    (closed : Closed state.input input) : Inside outer state (state.within outer input) :=
  ⟨closed, rfl⟩

theorem kept_groupName? {input input' : Input} (closed : Closed input input') :
    Kept Alike (groupName? input) (groupName? input') := by
  cases closed with
  | swallowed => exact .refused _
  | behind =>
    rw [groupName?, groupName?, List.dropWhile_append]
    cases stops : input.dropWhile (· != '>') with
    | nil =>
      cases input.takeWhile (· != '>') <;> exact .refused _
    | cons c rest =>
      rw [takeWhile_append_of_stop stops, List.isEmpty_cons, if_neg Bool.false_ne_true, List.cons_append]
      cases input.takeWhile (· != '>') with
      | nil => exact .refused _
      | cons first later =>
        by_cases ends : c = '>'
        · subst ends
          by_cases valid : (nameChar true first && later.all (nameChar false)) = true
          · simp only [valid]
            exact .read ⟨_, .behind rest⟩
          · simp only [valid]
            exact .refused _
        · simp only [List.cons.injEq, ends, false_and, false_implies, implies_true]
          exact .refused _

theorem kept_flags? (flags extended : Flags) (off : Bool) (used : List Char) {fuel fuel' : Nat}
    (enough : fuel ≤ fuel') {input input' : Input} (closed : Closed input input') :
    Kept Alike (flags? flags extended off used fuel input) (flags? flags extended off used fuel' input') := by
  induction fuel generalizing flags off used fuel' input input' with
  | zero => exact .refused _
  | succ fuel ih =>
    cases fuel' with
    | zero => exact absurd enough (Nat.not_succ_le_zero _)
    | succ fuel' =>
      cases input with
      | nil => exact .refused _
      | cons c rest =>
        rw [closed.eq_of_cons, flags?, flags?]
        have further := (Closed.behind rest).skip extended
        have onward (flags : Flags) (off : Bool) (used : List Char) :=
          ih flags off used (Nat.le_of_succ_le_succ enough) further
        split
        · split
          · exact .refused _
          · exact .read ⟨_, .behind rest⟩
        · split
          · split
            · exact .refused _
            · exact onward _ _ _
          · split
            · exact .refused _
            · cases flags.set? (!off) c with
              | none => exact .refused _
              | some changed => exact onward _ _ _

theorem dropLead?_append_close {lead : Text} (notClose : ')' ∉ lead) (input : Input) :
    Text.dropLead? (input ++ [')']) lead = (Text.dropLead? input lead).map (· ++ [')']) :=
  Text.dropLead?_append_of_head? input (by simpa using notClose)

theorem isLookAround_append (input : Input) : isLookAround (input ++ [')']) = isLookAround input := by
  have apart {lead : Text} (notClose : ')' ∉ lead) :
      Text.startsWith (input ++ [')']) lead = Text.startsWith input lead := by
    rw [Text.startsWith, dropLead?_append_close notClose, Option.isSome_map, Text.startsWith]
  simp only [isLookAround, List.any_cons, List.any_nil]
  rw [apart, apart, apart, apart] <;> rw [String.toList_ofList] <;> decide

theorem nameSign?_append (input : Input) :
    nameSign? (input ++ [')']) = (nameSign? input).map (· ++ [')']) := by
  rw [nameSign?, nameSign?, dropLead?_append_close, dropLead?_append_close]
  · cases Text.dropLead? input "?P<".toList <;> rfl
  all_goals rw [String.toList_ofList]; decide

theorem kept_group? (outer : List OpenGroup) (state : State) (given : Input) {input input' : Input}
    (closed : Closed input input') :
    Kept (Inside outer) (group? state input) (group? (state.within outer given) input') := by
  have skipped := closed.skip state.flags
  unfold group?
  rw [State.within_flags, State.within_names]
  dsimp only
  generalize skip state.flags input = read at skipped ⊢
  generalize skip state.flags input' = read' at skipped ⊢
  cases skipped with
  | swallowed => exact .read ⟨.swallowed, rfl⟩
  | behind =>
    rw [isLookAround_append, nameSign?_append]
    split
    · exact .refused _
    · cases nameSign? read with
      | some named =>
        refine (kept_groupName? (Closed.behind named)).bind ?_
        rintro _ _ ⟨name, closed⟩
        by_cases known : state.names.contains name = true
        · rw [if_pos known]
          exact .refused _
        · rw [if_neg known, if_neg known]
          exact .read ⟨closed, rfl⟩
      | none =>
        dsimp only [Option.map_none]
        cases read with
        | nil => exact .read ⟨.behind [], rfl⟩
        | cons c rest =>
          rw [List.cons_append]
          by_cases isSign : c = '?'
          · subst isSign
            refine (kept_flags? _ _ _ _ (by simp) (Closed.behind rest)).bind ?_
            rintro _ _ ⟨⟨flags, isGroup, any⟩, closed⟩
            dsimp only
            split
            · exact .read ⟨closed, rfl⟩
            · split
              · exact .read ⟨closed, rfl⟩
              · exact .refused _
          · simp only [List.cons.injEq, isSign, false_and, false_implies, implies_true]
            exact .read ⟨.behind (c :: rest), rfl⟩

theorem kept_closeGroup? (outer : List OpenGroup) (state : State) (given : Input) {input input' : Input}
    (closed : Closed input input') :
    Kept (Inside outer) (closeGroup? state input) (closeGroup? (state.within outer given) input') := by
  unfold closeGroup?
  dsimp only [State.within]
  cases state.groups with
  | nil => exact .refused _
  | cons group groups => exact .read ⟨closed, rfl⟩

/-! ## Repetition -/

theorem kept_repeat? (outer : List OpenGroup) (state : State) (given : Input) (least : Nat)
    (most : Option Nat) (isLazy : Bool) {input input' : Input} (closed : Closed input input') :
    Kept (Inside outer) (repeat? state least most isLazy input)
      (repeat? (state.within outer given) least most isLazy input') := by
  unfold repeat?
  dsimp only [State.within]
  cases state.level.items.getLast? with
  | none => exact .refused _
  | some item =>
    dsimp only
    split
    · exact .read ⟨closed, rfl⟩
    · exact .refused _

theorem alike_lazySign {input input' : Input} (closed : Closed input input') :
    Alike (lazySign input) (lazySign input') := by
  cases closed with
  | swallowed => exact ⟨false, .swallowed⟩
  | behind =>
    cases input with
    | nil => exact ⟨false, .behind []⟩
    | cons c rest =>
      by_cases isSign : c = '?'
      · subst isSign
        exact ⟨true, .behind rest⟩
      · simpa [lazySign, isSign] using Alike.intro false (Closed.behind (c :: rest))

theorem alike_digits (flags : Flags) (acc : Text) {fuel fuel' : Nat} {input input' : Input}
    (closed : Closed input input') (enough : input.length ≤ fuel) (enough' : input'.length ≤ fuel') :
    Alike (decimal?.digits flags fuel acc input) (decimal?.digits flags fuel' acc input') := by
  induction fuel generalizing acc fuel' input input' with
  | zero =>
    obtain rfl := List.eq_nil_of_length_eq_zero (Nat.le_zero.mp enough)
    cases closed <;> cases fuel' <;> exact ⟨acc, by constructor⟩
  | succ fuel ih =>
    cases input with
    | nil => cases closed <;> cases fuel' <;> exact ⟨acc, by constructor⟩
    | cons c rest =>
      rw [closed.eq_of_cons] at enough' ⊢
      cases fuel' with
      | zero => exact absurd enough' (Nat.not_succ_le_zero _)
      | succ fuel' =>
        rw [decimal?.digits, decimal?.digits]
        split
        · refine ih _ ((Closed.behind rest).skip flags) ?_ ?_
          · exact (length_skip_le flags rest).trans (Nat.le_of_succ_le_succ enough)
          · exact (length_skip_le flags _).trans (Nat.le_of_succ_le_succ enough')
        · exact ⟨acc, .behind (c :: rest)⟩

theorem kept_decimal? (flags : Flags) {input input' : Input} (closed : Closed input input') :
    Kept Alike (decimal? flags input) (decimal? flags input') := by
  have blanks := closed.dropBlanks
  have digits := alike_digits flags [] blanks (Nat.le_refl _) (Nat.le_refl _)
  rw [decimal?, decimal?]
  dsimp only
  generalize decimal?.digits flags _ _ _ = read at digits ⊢
  generalize decimal?.digits flags _ _ _ = read' at digits ⊢
  rcases digits with ⟨written, closed⟩
  have rest := closed.dropBlanks.skip flags
  dsimp only
  split
  · exact .read ⟨none, rest⟩
  · split
    · exact .read ⟨_, rest⟩
    · exact .refused _

theorem kept_upperCount? (flags : Flags) (least : Nat) {input input' : Input} (closed : Closed input input') :
    Kept Alike (upperCount? flags least input) (upperCount? flags least input') := by
  cases closed with
  | swallowed => exact .read ⟨some least, .swallowed⟩
  | behind =>
    cases input with
    | nil => exact .read ⟨some least, .behind []⟩
    | cons c rest =>
      rw [List.cons_append]
      by_cases isComma : c = ','
      · subst isComma
        rw [upperCount?, upperCount?]
        rcases ((Closed.behind rest).skip flags).nil_or_cons with ended | ⟨d, later, isLater, isLater'⟩
        · rw [ended]
          exact .refused _
        · rw [isLater, isLater']
          dsimp only
          split
          · exact .read ⟨none, .behind (d :: later)⟩
          · refine (kept_decimal? flags (Closed.behind (d :: later))).bind ?_
            rintro _ _ ⟨most, closed⟩
            exact Kept.bind_same fun most => .read ⟨some most, closed⟩
      · have exact := Alike.intro (some least) (Closed.behind (c :: rest))
        simpa [upperCount?, isComma] using Kept.read exact

theorem kept_counts? (flags : Flags) {input input' : Input} (closed : Closed input input') :
    Kept Alike (counts? flags input) (counts? flags input') := by
  rw [counts?, counts?]
  rcases (closed.skip flags).nil_or_cons with ended | ⟨c, rest, isSkipped, isSkipped'⟩
  · rw [ended]
    exact .refused _
  · rw [isSkipped, isSkipped']
    refine (kept_decimal? flags (Closed.behind (c :: rest))).bind ?_
    rintro _ _ ⟨least, closed⟩
    refine Kept.bind_same fun least => ?_
    refine (kept_upperCount? flags least closed).bind ?_
    rintro ⟨_, last⟩ _ ⟨most, closed⟩
    cases last with
    | nil => exact .refused _
    | cons d later =>
      rw [closed.eq_of_cons]
      dsimp only
      split
      · exact .read ⟨_, .behind later⟩
      · exact .refused _

/-! ## The reader -/

theorem kept_step? (outer : List OpenGroup) (state : State) (given : Input) (c : Char) {input input' : Input}
    (closed : Closed input input') :
    Kept (Inside outer) (step? state c input) (step? (state.within outer given) c input') := by
  have repeats (least : Nat) (most : Option Nat) {rest rest' : Input} (closed : Closed rest rest') :
      Kept (Inside outer) (repeat? state least most (lazySign rest).1 (lazySign rest).2)
        (repeat? (state.within outer given) least most (lazySign rest').1 (lazySign rest').2) := by
    have sign := alike_lazySign closed
    generalize lazySign rest = read at sign ⊢
    generalize lazySign rest' = read' at sign ⊢
    rcases sign with ⟨isLazy, closed⟩
    exact kept_repeat? outer state given least most isLazy closed
  unfold step?
  split
  · exact kept_group? outer state given closed
  · exact kept_closeGroup? outer state given closed
  · exact .read ⟨closed, rfl⟩
  · refine (kept_openBracket? state.flags closed).bind ?_
    rintro _ _ ⟨bracket, closed⟩
    refine (kept_bracket? state.flags (Nat.succ_le_succ closed.length_le) [] bracket closed).bind ?_
    rintro _ _ ⟨nested, closed⟩
    exact .read ⟨closed, rfl⟩
  · exact repeats 0 (some 1) closed
  · exact repeats 0 none closed
  · exact repeats 1 none closed
  · exact Kept.map_same fun chars => ⟨closed, rfl⟩
  · exact .read ⟨closed, rfl⟩
  · exact .read ⟨closed, rfl⟩
  · have kept := kept_escape? state.flags closed
    rw [State.within_flags]
    dsimp only
    generalize escape? state.flags input = read at kept ⊢
    generalize escape? state.flags input' = read' at kept ⊢
    cases kept with
    | refused => exact .refused _
    | read alike =>
      rcases alike with ⟨escape, closed⟩
      cases escape with
      | char c => exact Kept.map_same fun chars => ⟨closed, rfl⟩
      | chars set => exact .read ⟨closed, rfl⟩
      | look condition => exact .read ⟨closed, rfl⟩
  · split
    · refine (kept_counts? state.flags closed).bind ?_
      rintro _ _ ⟨⟨least, most⟩, closed⟩
      exact repeats least most (closed.skip state.flags)
    · exact Kept.map_same fun chars => ⟨closed, rfl⟩

/-- The end of what is read ends the group too, if it is there. -/
theorem loop?_within_end {fuel : Nat} (enough : 2 ≤ fuel) {group : OpenGroup} {state : State}
    (noGroup : state.groups = []) {input : Input} (closed : Closed [] (skip state.flags input)) :
    loop? fuel (state.within [group] input) = none ∨
      loop? fuel (state.within [group] input) =
        some (group.level.add { state.level.whole with depth := state.level.whole.depth + 1 }).whole := by
  obtain ⟨fuel, rfl⟩ := Nat.exists_eq_add_of_le' enough
  rw [loop?, State.within_flags, State.within_groups, noGroup]
  have isInput : (state.within [group] input).input = input := rfl
  rw [isInput]
  generalize skip state.flags input = left at closed ⊢
  cases closed with
  | swallowed => exact Or.inl rfl
  | behind =>
    have closes : step? (state.within [group] input) ')' [] = some
        { state with
          flags := group.flags
          level := group.level.add { state.level.whole with depth := state.level.whole.depth + 1 }
          groups := []
          input := [] } := by
      rw [step?, closeGroup?, State.within_groups, noGroup]
      rfl
    refine Or.inr ?_
    rw [List.nil_append]
    dsimp only
    rw [closes, Option.bind_eq_bind, Option.bind_some, loop?, skip_nil]
    rfl

/-- A reader inside a group reads what it would read outside, and then the end of the group; or it finds no
end, because a comment has swallowed it.  The reader outside sets the pace: by each of its steps the reader
inside makes the same one. -/
theorem loop?_within {fuel fuel' : Nat} (enough : fuel < fuel') {group : OpenGroup} {state inner : State}
    (inside : Inside [group] state inner) {whole : Item} (read : loop? fuel state = some whole) :
    loop? fuel' inner = none ∨
      loop? fuel' inner = some (group.level.add { whole with depth := whole.depth + 1 }).whole := by
  induction fuel generalizing fuel' state inner with
  | zero => cases read
  | succ fuel ih =>
    obtain ⟨input', rfl⟩ : ∃ input', inner = state.within [group] input' := ⟨_, inside.within⟩
    have skipped := inside.closed.skip state.flags
    rw [loop?] at read
    cases isSkipped : skip state.flags state.input with
    | nil =>
      rw [isSkipped] at read skipped
      dsimp only at read
      split at read
      · rename_i noGroup
        cases read
        exact loop?_within_end (by omega) (List.isEmpty_iff.mp noGroup) skipped
      · cases read
    | cons c rest =>
      rw [isSkipped] at read skipped
      obtain ⟨fuel', rfl⟩ := Nat.exists_eq_add_of_le' (Nat.one_le_of_lt enough)
      have kept := kept_step? [group] state input' c (Closed.behind rest)
      have next : loop? (fuel' + 1) (state.within [group] input') =
          step? (state.within [group] input') c (rest ++ [')']) >>= loop? fuel' := by
        rw [loop?, State.within_flags, skipped.eq_of_cons]
      rw [next]
      dsimp only at read
      generalize step? state c rest = step at read kept
      generalize step? (state.within [group] input') c (rest ++ [')']) = step' at kept ⊢
      cases kept with
      | refused => cases read
      | read inside => exact ih (Nat.lt_of_succ_lt_succ enough) inside read

end Marginalia.Pattern.Parser
