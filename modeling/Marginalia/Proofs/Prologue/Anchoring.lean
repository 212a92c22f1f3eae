import Marginalia.Prologue
import Marginalia.Proofs.Pattern.Finding
import Marginalia.Proofs.Pattern.Reading

/-!
# How far the patterns of a prologue are anchored

The patterns of a prologue are held to the start of the text by the group they are written into.  A text
that is a pattern by itself stays in that group, so it is anchored as a whole: its step takes
a match exactly where the pattern has one at the start, and what it removes is a match of the pattern with
nothing before it.

A prologue also accepts texts that are no patterns by themselves.  Such a text can close the group and open
another one, and then its last part is looked for everywhere.
-/

namespace Marginalia

/-! ## Reading an anchored text -/

open Pattern.Parser

namespace Pattern

theorem exists_whole_of_parse {text : Text} {pattern : Pattern} (read : parse text = .ok pattern) :
    ∃ whole, loop? (text.length + 1) { input := text } = some whole ∧ whole.pattern = pattern := by
  rw [parse] at read
  cases isWhole : loop? (text.length + 1) { input := text } with
  | none =>
    rw [isWhole] at read
    cases read
  | some whole =>
    rw [isWhole] at read
    dsimp only at read
    split at read
    · cases read
    · split at read
      · cases read
      · exact ⟨whole, rfl, Except.ok.inj read⟩

/-- The first two steps of the reader take the anchor and open the group. -/
theorem loop?_anchor (fuel : Nat) (text : Text) :
    loop? (fuel + 2) { input := Prologue.anchor text } =
      loop? fuel (State.within { input := text }
        [⟨{ items := [{ pattern := .look .textStart }] }, {}⟩] (text ++ [')'])) :=
  rfl

/-- A text that is a pattern by itself is anchored as a whole. -/
theorem parse_anchor {text : Text} {pattern anchored : Pattern} (alone : parse text = .ok pattern)
    (inGroup : parse (Prologue.anchor text) = .ok anchored) :
    anchored = .seq (.look .textStart) pattern := by
  obtain ⟨whole, read, rfl⟩ := exists_whole_of_parse alone
  obtain ⟨around, readAround, rfl⟩ := exists_whole_of_parse inGroup
  have spelled : Prologue.anchor text = '\\' :: 'A' :: '(' :: '?' :: ':' :: (text ++ [')']) := rfl
  have length : (Prologue.anchor text).length + 1 = text.length + 5 + 2 := by
    simp only [spelled, List.length_cons, List.length_append, List.length_nil]
  rw [length, loop?_anchor] at readAround
  have more : text.length + 1 < text.length + 5 := by omega
  rcases loop?_within more (State.inside_within _ _ (.behind text)) read with unclosed | closed
  · rw [unclosed] at readAround
    cases readAround
  · rw [closed] at readAround
    cases readAround
    rfl

end Pattern

/-! ## The steps of a prologue -/

namespace Prologue

/-- A step leaves a text as it is if the pattern does not match at its start.  Otherwise it removes a part that
is matched by the pattern from the start of the text on. -/
def RemovesMatch (pattern : Pattern) (program : Program) : Prop :=
  ∀ source,
    (stripOne source program = source ∧ ∀ after rest, ¬ pattern.Matches .none source after rest) ∨
      ∃ removed after, source = removed ++ stripOne source program ∧
        pattern.Matches .none source after (stripOne source program)

theorem removesMatch_compile (pattern : Pattern) :
    RemovesMatch pattern (Program.compile (.seq (.look .textStart) pattern)) := by
  intro source
  rw [stripOne]
  cases found : (Program.compile (.seq (.look .textStart) pattern)).afterMatch? source with
  | none =>
    refine Or.inl ⟨rfl, ?_⟩
    intro after rest matched
    have atStart : Pattern.Matches (.look .textStart) .none source .none source := .look rfl
    have isFound := Program.isSome_afterMatch?_of_matches (.seq atStart matched)
    rw [found] at isFound
    cases isFound
  | some rest =>
    obtain ⟨after, matched⟩ := Program.matches_of_anchored found
    obtain ⟨removed, whole⟩ := matched.isSuffix
    exact Or.inr ⟨removed, after, whole.symm, matched⟩

theorem exists_of_ofPatterns_cons {text : Text} {written : List Text} {prologue : Prologue}
    (accepted : ofPatterns (text :: written) = .ok prologue) :
    ∃ anchored rest, Pattern.parse (anchor text) = .ok anchored ∧ ofPatterns written = .ok rest ∧
      prologue.programs = Program.compile anchored :: rest.programs := by
  rw [ofPatterns, List.mapM_cons] at accepted
  rw [ofPatterns]
  cases read : Pattern.parse (anchor text) with
  | error error =>
    rw [read] at accepted
    cases accepted
  | ok anchored =>
    rw [read] at accepted
    cases readRest : written.mapM fun text => Pattern.parse (anchor text) with
    | error error =>
      rw [readRest] at accepted
      cases accepted
    | ok patterns =>
      rw [readRest] at accepted
      cases accepted
      exact ⟨anchored, _, rfl, rfl, rfl⟩

/-- Each pattern of a prologue that is a pattern by itself is anchored. -/
theorem ofPatterns_removes_matches {written : List Text} {prologue : Prologue}
    (accepted : ofPatterns written = .ok prologue) :
    List.Forall₂ (fun text program => ∀ pattern, Pattern.parse text = .ok pattern →
      RemovesMatch pattern program) written prologue.programs := by
  induction written generalizing prologue with
  | nil =>
    cases accepted
    exact .nil
  | cons text written ih =>
    obtain ⟨anchored, rest, read, acceptedRest, programs⟩ := exists_of_ofPatterns_cons accepted
    rw [programs]
    refine .cons ?_ (ih acceptedRest)
    intro pattern alone
    rw [Pattern.parse_anchor alone read]
    exact removesMatch_compile pattern

theorem ofPatterns_removes_matches_two : ∃ prologue first second,
    ofPatterns ["---\\n".toList, "a|b+".toList] = .ok prologue ∧
      Pattern.parse "---\\n".toList = .ok first ∧ Pattern.parse "a|b+".toList = .ok second ∧
      List.Forall₂ RemovesMatch [first, second] prologue.programs ∧
      prologue.strip "---\nbbca".toList = "ca".toList := by
  refine ⟨_, _, _, rfl, rfl, rfl, ?_, by rfl⟩
  have steps := ofPatterns_removes_matches
    (show ofPatterns ["---\\n".toList, "a|b+".toList] = .ok _ from rfl)
  cases steps with
  | cons first later =>
    cases later with
    | cons second =>
      exact .cons (first _ rfl) (.cons (second _ rfl) .nil)

/-- The second part of this text is outside the group, so it is found after any characters, and they are
dropped with it. -/
theorem ofPatterns_accepts_unbalanced : ∃ prologue,
    ofPatterns ["a)|(?:b".toList] = .ok prologue ∧
      Pattern.parse "a)|(?:b".toList = .error .malformed ∧ prologue.strip "xb".toList = [] :=
  ⟨_, rfl, by rfl, by rfl⟩

end Prologue

end Marginalia
