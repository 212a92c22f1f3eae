import Mathlib.Data.Set.Function
import Marginalia.Proofs.Html.Markup

/-!
# Reading escaped text

Escaping writes five characters as references.  `unescape` reads these references back in one pass from
left to right and leaves everything else as it is, so that a text which looks escaped already comes back
as it was.

In the other direction, not every text is the escaped form of another one: a text with an angle bracket is
not, and neither is one with a lone ampersand or with a reference of another kind.  `unescape` reads such a
text all the same, and escaping what it read gives a different text.  The texts that come back in this
direction too are those that are `Escaped`.
-/

namespace Marginalia.Html

/-- The text that is meant when the five references of escaped text are read. -/
def unescape : Text → Text
  | '&' :: 'a' :: 'm' :: 'p' :: ';' :: rest => '&' :: unescape rest
  | '&' :: 'l' :: 't' :: ';' :: rest => '<' :: unescape rest
  | '&' :: 'g' :: 't' :: ';' :: rest => '>' :: unescape rest
  | '&' :: 'q' :: 'u' :: 'o' :: 't' :: ';' :: rest => '"' :: unescape rest
  | '&' :: '#' :: '3' :: '9' :: ';' :: rest => '\'' :: unescape rest
  | c :: rest => c :: unescape rest
  | [] => []

/-- None of the five references begins with another character than an ampersand. -/
theorem unescape_cons {c : Char} (notAmpersand : c ≠ '&') (rest : Text) :
    unescape (c :: rest) = c :: unescape rest := by
  rw [unescape]
  all_goals
    intro _ isAmpersand _
    exact notAmpersand isAmpersand

/-- One character is read back, whatever follows it. -/
theorem unescape_escapeChar_append (c : Char) (rest : Text) :
    unescape (escapeChar c ++ rest) = c :: unescape rest := by
  have is (n : Nat) (code : c.toNat = n) : c = Char.ofNat n := by
    rw [← code, Char.ofNat_toNat]
  unfold escapeChar
  split
  case h_6 notAmpersand _ _ _ _ =>
    refine unescape_cons ?_ rest
    rintro rfl
    exact notAmpersand rfl
  all_goals
    rename_i code
    rw [is _ code, String.toList_ofList]
    rfl

/-- Escaping is undone by reading the references. -/
theorem unescape_escape (text : Text) : unescape (escape text) = text := by
  induction text with
  | nil => rfl
  | cons c rest ih => rw [escape, List.flatMap_cons, unescape_escapeChar_append, ← escape, ih]

theorem escape_injective {first second : Text} (same : escape first = escape second) :
    first = second := by
  rw [← unescape_escape first, same, unescape_escape]

/-! ## Which texts are escaped forms -/

theorem escapeChar_ne_nil (c : Char) : escapeChar c ≠ [] := by
  intro isNil
  have readBack := unescape_escapeChar_append c []
  rw [isNil] at readBack
  cases readBack

theorem exists_escapeChar_eq {reference : Text} (member : reference ∈ reservedReferences) :
    ∃ c, escapeChar c = reference := by
  unfold reservedReferences at member
  simp only [List.map_cons, List.map_nil, List.mem_cons, List.not_mem_nil, or_false] at member
  rcases member with rfl | rfl | rfl | rfl | rfl
  exacts [⟨'&', rfl⟩, ⟨'<', rfl⟩, ⟨'>', rfl⟩, ⟨'"', rfl⟩, ⟨'\'', rfl⟩]

/-- Unless it is empty, an escaped text begins with what is written for some character. -/
theorem Escaped.exists_escapeChar_append {c : Char} {rest : Text} (escaped : Escaped (c :: rest)) :
    ∃ d after, c :: rest = escapeChar d ++ after := by
  rcases escaped_cons.mp escaped with ⟨notMarkup, begins, _⟩
  by_cases isAmpersand : c = '&'
  · rcases begins isAmpersand with ⟨reference, member, after, whole⟩
    rcases exists_escapeChar_eq member with ⟨d, rfl⟩
    exact ⟨d, after, whole.symm⟩
  · rcases escapeChar_cases c with ⟨reserved, _⟩ | ⟨_, asItIs⟩
    · simp [isReserved, isAmpersand, notMarkup] at reserved
    · exact ⟨c, rest, by rw [asItIs, List.singleton_append]⟩

/-- An escaped text is taken apart from the left, one written character at a time.  Up to six characters were
written for one, so the recursion follows the length. -/
theorem Escaped.exists_escape_eq {written : Text} (escaped : Escaped written) :
    ∃ text, escape text = written := by
  cases written with
  | nil => exact ⟨[], rfl⟩
  | cons c rest =>
    rcases escaped.exists_escapeChar_append with ⟨d, after, whole⟩
    have shorter : after.length < (c :: rest).length := by
      rw [whole, List.length_append]
      exact Nat.lt_add_of_pos_left (List.length_pos_of_ne_nil (escapeChar_ne_nil d))
    rw [whole, escaped_escapeChar_append] at escaped
    rcases escaped.exists_escape_eq with ⟨text, isWritten⟩
    exact ⟨d :: text, by rw [whole, ← isWritten, escape, List.flatMap_cons, ← escape]⟩
termination_by written.length

theorem escaped_iff_escape_unescape (written : Text) :
    Escaped written ↔ escape (unescape written) = written := by
  constructor
  · intro escaped
    rcases escaped.exists_escape_eq with ⟨text, rfl⟩
    rw [unescape_escape]
  · intro same
    rw [← same]
    exact escaped_escape (unescape written)

/--
Escaping is a bijection from all texts onto those without markup in which every ampersand begins the reference
of a reserved character, and reading the references is its inverse.
-/
theorem escape_bijOn_escaped :
    (∀ text, unescape (escape text) = text) ∧ (∀ text, Escaped (escape text)) ∧
      (∀ written, Escaped written ↔ escape (unescape written) = written) ∧
      Set.BijOn escape Set.univ {written | Escaped written} := by
  refine ⟨unescape_escape, escaped_escape, escaped_iff_escape_unescape, ?maps, ?injective, ?onto⟩
  case maps => exact fun text _ => escaped_escape text
  case injective => exact fun first _ second _ same => escape_injective same
  case onto =>
    intro written escaped
    exact ⟨unescape written, Set.mem_univ _, (escaped_iff_escape_unescape written).mp escaped⟩

/-- Pages have this reference, but escaping does not write it. -/
example : ¬ Escaped "&nbsp;".toList := by
  decide

end Marginalia.Html
