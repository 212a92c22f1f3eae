import Mathlib.Data.List.Infix
import Marginalia.Text.Basic

/-!
# Where a text stands in another one

The occurrences of a text in a longer one are its places there, from left to right.  When texts are put
together, an occurrence may begin in one of them and end in another.  `Text.Clear` says of a text that this
cannot happen: every ending of it differs from the text that is looked for within its own length, so that
nothing which follows can complete an occurrence.  Texts that are clear can be put together, and what is in
front of a text then only moves its occurrences.
-/

namespace Marginalia.Text

/-- The places at which a text that is not empty stands in another one, in order. -/
def occurrences (sought text : Text) : List Nat :=
  (List.range text.length).filter fun place => sought <+: text.drop place

/-- No occurrence of `sought` begins in the text, whatever follows. -/
def Clear (sought text : Text) : Prop :=
  ∀ ending ∈ text.tails, ending.head? = sought.head? → ¬ ending <+: sought ∧ ¬ sought <+: ending

instance (sought text : Text) : Decidable (Clear sought text) :=
  inferInstanceAs (Decidable (∀ ending ∈ text.tails, _ → _))

variable {sought : Text}

theorem occurrences_cons (sought : Text) (c : Char) (rest : Text) :
    occurrences sought (c :: rest) =
      (if sought <+: c :: rest then [0] else []) ++ (occurrences sought rest).map (1 + ·) := by
  have later : ((List.range rest.length).map Nat.succ).filter (fun place => sought <+: (c :: rest).drop place) =
      (occurrences sought rest).map (1 + ·) := by
    rw [List.filter_map, occurrences]
    refine List.map_congr_left fun place _ => ?_
    rw [Nat.succ_eq_add_one, Nat.add_comm]
  rw [← later, occurrences, List.length_cons, List.range_succ_eq_map, List.filter_cons, List.drop_zero]
  by_cases begins : sought <+: c :: rest <;> simp [begins]

theorem clear_cons {c : Char} {rest : Text} :
    Clear sought (c :: rest) ↔
      (some c = sought.head? → ¬ c :: rest <+: sought ∧ ¬ sought <+: c :: rest) ∧ Clear sought rest := by
  simp [Clear]

theorem clear_nil (nonempty : sought ≠ []) : Clear sought [] := by
  intro ending member same
  rw [List.mem_tails, List.suffix_nil] at member
  rw [member, List.head?_nil, eq_comm, List.head?_eq_none_iff] at same
  exact absurd same nonempty

/-- Two texts that differ where both of them go on keep differing. -/
theorem not_isPrefix_append {text : Text} (notWithin : ¬ text <+: sought) (notBegun : ¬ sought <+: text)
    (after : Text) : ¬ sought <+: text ++ after := by
  intro begun
  rcases List.prefix_or_prefix_of_prefix begun (List.prefix_append text after) with short | long
  · exact notBegun short
  · exact notWithin long

theorem Clear.append {first second : Text} (firstClear : Clear sought first)
    (secondClear : Clear sought second) : Clear sought (first ++ second) := by
  induction first with
  | nil => exact secondClear
  | cons c rest ih =>
    rcases clear_cons.mp firstClear with ⟨differs, restClear⟩
    refine clear_cons.mpr ⟨fun same => ?_, ih restClear⟩
    rcases differs same with ⟨notWithin, notBegun⟩
    constructor
    · intro within
      exact notWithin ((List.prefix_append (c :: rest) second).trans within)
    · exact not_isPrefix_append notWithin notBegun second

theorem Clear.of_not_mem {c : Char} {text : Text} (begins : sought.head? = some c) (absent : c ∉ text) :
    Clear sought text := by
  intro ending member same
  have inside : c ∈ ending := List.mem_of_mem_head? (same.trans begins)
  exact absurd ((List.mem_tails ending text).mp member |>.subset inside) absent

/-- A text that is clear moves the occurrences in what follows.  One that began in the text would begin there with
the first character of what is sought, and this is what being clear excludes. -/
theorem occurrences_append {first : Text} (nonempty : sought ≠ []) (clear : Clear sought first) (second : Text) :
    occurrences sought (first ++ second) = (occurrences sought second).map (first.length + ·) := by
  induction first with
  | nil => simp
  | cons c rest ih =>
    rcases clear_cons.mp clear with ⟨differs, restClear⟩
    have notHere : ¬ sought <+: c :: (rest ++ second) := by
      intro begun
      rcases List.exists_cons_of_ne_nil nonempty with ⟨d, others, rfl⟩
      have same : c = d := by
        rcases begun with ⟨after, whole⟩
        exact (List.cons.inj whole).1.symm
      rcases differs (congrArg some same) with ⟨notWithin, notBegun⟩
      exact not_isPrefix_append notWithin notBegun second begun
    rw [List.cons_append, occurrences_cons, if_neg notHere, List.nil_append, ih restClear, List.map_map]
    refine List.map_congr_left fun place _ => ?_
    rw [Function.comp_apply, List.length_cons]
    omega

/-- An occurrence at the start, if no other one begins in it. -/
theorem occurrences_self_append (nonempty : sought ≠ []) (clear : Clear sought sought.tail) (rest : Text) :
    occurrences sought (sought ++ rest) = 0 :: (occurrences sought rest).map (sought.length + ·) := by
  have here : sought <+: sought ++ rest := List.prefix_append sought rest
  rcases List.exists_cons_of_ne_nil nonempty with ⟨c, others, isCons⟩
  rw [isCons, List.tail_cons, ← isCons] at clear
  have split : sought ++ rest = c :: (others ++ rest) := by rw [isCons, List.cons_append]
  rw [split] at here ⊢
  rw [occurrences_cons, if_pos here, occurrences_append nonempty clear, List.map_map, List.singleton_append]
  congr 1
  refine List.map_congr_left fun place _ => ?_
  rw [Function.comp_apply, isCons, List.length_cons]
  omega

/-- A text with one occurrence in it, of which it is known where it stands.  The places after it are moved by what
is before it, by the occurrence and by what is after it. -/
theorem occurrences_append_once {before after : Text} (nonempty : sought ≠ [])
    (selfClear : Clear sought sought.tail) (beforeClear : Clear sought before)
    (afterClear : Clear sought after) (rest : Text) :
    occurrences sought (before ++ (sought ++ after) ++ rest) =
      before.length :: (occurrences sought rest).map ((before ++ (sought ++ after)).length + ·) := by
  rw [List.append_assoc, List.append_assoc, occurrences_append nonempty beforeClear,
    occurrences_self_append nonempty selfClear, occurrences_append nonempty afterClear, List.map_cons,
    List.map_map, List.map_map, Nat.add_zero]
  congr 1
  refine List.map_congr_left fun place _ => ?_
  simp only [Function.comp_apply, List.length_append]
  omega

end Marginalia.Text
