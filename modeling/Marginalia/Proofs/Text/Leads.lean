import Mathlib.Data.List.Infix
import Mathlib.Data.List.TakeWhile
import Marginalia.Text.Basic

/-!
# What texts start and end with

Taking a lead off a text is the inverse of putting it there, and what stands after a text decides nothing
about its lead as long as it begins with a character that the lead does not have.
-/

namespace Marginalia.Text

theorem dropLead?_append (lead rest : Text) : dropLead? (lead ++ rest) lead = some rest := by
  induction lead with
  | nil => rw [List.nil_append, dropLead?]
  | cons c lead ih => rw [List.cons_append, dropLead?, if_pos rfl, ih]

theorem eq_append_of_dropLead? {text lead rest : Text} (dropped : dropLead? text lead = some rest) :
    text = lead ++ rest := by
  fun_induction dropLead? text lead with
  | case1 text => exact Option.some.inj dropped
  | case2 c lead => cases dropped
  | case3 text c lead ih => exact congrArg (c :: ·) (ih dropped)
  | case4 a text b lead differ => cases dropped

theorem dropLead?_append_of_head? {lead : Text} (text : Text) {after : Text}
    (apart : ∀ c ∈ after.head?, c ∉ lead) :
    dropLead? (text ++ after) lead = (dropLead? text lead).map (· ++ after) := by
  fun_induction dropLead? text lead with
  | case1 text => rw [dropLead?]; rfl
  | case2 c lead =>
    cases after with
    | nil => rfl
    | cons first after =>
      have differs : first ≠ c := fun same => apart first rfl (same ▸ List.mem_cons_self)
      rw [List.nil_append, dropLead?, if_neg differs]
      rfl
  | case3 text c lead ih =>
    rw [List.cons_append, dropLead?, if_pos rfl]
    exact ih fun first isFirst member => apart first isFirst (List.mem_cons_of_mem c member)
  | case4 a text b lead differ =>
    rw [List.cons_append, dropLead?, if_neg differ]
    rfl

theorem dropLead?_eq (text lead : Text) :
    dropLead? text lead = if lead <+: text then some (text.drop lead.length) else none := by
  split
  · rename_i isLead
    rcases isLead with ⟨rest, rfl⟩
    rw [dropLead?_append, List.drop_left]
  · rename_i notLead
    cases dropped : dropLead? text lead with
    | none => rfl
    | some rest =>
      rw [eq_append_of_dropLead? dropped] at notLead
      exact absurd (List.prefix_append lead rest) notLead

theorem startsWith_iff {text lead : Text} : text.startsWith lead = true ↔ lead <+: text := by
  rw [startsWith, dropLead?_eq]
  by_cases isLead : lead <+: text <;> simp [isLead]

theorem startsWith_eq_false {text lead : Text} (notPrefix : ¬ lead <+: text) :
    startsWith text lead = false :=
  Bool.eq_false_iff.mpr (mt startsWith_iff.mp notPrefix)

theorem trimEndWhile_isPrefix (drop : Char → Bool) (text : Text) : trimEndWhile drop text <+: text := by
  have suffix := List.dropWhile_suffix (l := text.reverse) drop
  rw [← List.reverse_prefix] at suffix
  rwa [List.reverse_reverse] at suffix

/-- Trimming takes nothing but blanks off the two ends. -/
theorem exists_blanks_of_trim (text : Text) :
    ∃ before after, text = before ++ (text.trim ++ after) ∧ (∀ c ∈ before, isBlank c = true) ∧
      ∀ c ∈ after, isBlank c = true := by
  have ends : text.trimStart = text.trim ++ (text.trimStart.reverse.takeWhile isBlank).reverse := by
    rw [trim, trimEndWhile, ← List.reverse_append, List.takeWhile_append_dropWhile, List.reverse_reverse]
  refine ⟨text.takeWhile isBlank, (text.trimStart.reverse.takeWhile isBlank).reverse, ?_, ?_, ?_⟩
  · rw [← ends]
    exact List.takeWhile_append_dropWhile.symm
  · exact fun c member => List.mem_takeWhile_imp member
  · exact fun c member => List.mem_takeWhile_imp (List.mem_reverse.mp member)

end Marginalia.Text
