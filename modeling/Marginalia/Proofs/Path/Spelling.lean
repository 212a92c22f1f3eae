import Mathlib.Data.List.Basic
import Mathlib.Data.List.Induction
import Marginalia.Proofs.Path.Names

/-!
# Paths spelled piece by piece

Joining relative paths puts their pieces one after another, with a separator between neighbours.  A path
that is built from components by joining is therefore spelled by the list of their spellings, and reading
its components gives them back.  This holds for names and double dots.  A dot does not survive except at
the start, and the root replaces what is before it; neither occurs in what is built here.
-/

namespace Marginalia

namespace Path

/-- Bytes that can stand between separators. -/
structure IsPiece (bytes : Bytes) : Prop where
  ne_nil : bytes ≠ []
  whole : separator ∉ bytes

theorem IsName.isPiece {bytes : Bytes} (isName : IsName bytes) : IsPiece bytes :=
  ⟨isName.ne_nil, isName.whole⟩

/-! ## Spellings -/

theorem joinPieces_append {first second : List Bytes} (firstSome : first ≠ [])
    (secondSome : second ≠ []) :
    joinPieces (first ++ second) = joinPieces first ++ separator :: joinPieces second := by
  induction first with
  | nil => exact absurd rfl firstSome
  | cons piece rest ih =>
    cases rest with
    | nil =>
      rcases List.exists_cons_of_ne_nil secondSome with ⟨next, others, rfl⟩
      rw [List.singleton_append, joinPieces_cons_cons, joinPieces_singleton]
    | cons next others =>
      rw [List.cons_append, List.cons_append, joinPieces_cons_cons, ← List.cons_append,
        ih (List.cons_ne_nil next others), joinPieces_cons_cons]
      simp

section

variable {parts : List Bytes} (arePieces : ∀ part ∈ parts, IsPiece part)

include arePieces

/-- A spelling of pieces does not start with a separator. -/
theorem isAbsolute_joinPieces : (⟨joinPieces parts⟩ : Path).isAbsolute = false := by
  cases parts with
  | nil => rfl
  | cons first rest =>
    have isPiece := arePieces first List.mem_cons_self
    rcases List.exists_cons_of_ne_nil isPiece.ne_nil with ⟨byte, others, rfl⟩
    have differs : byte ≠ separator := by
      rintro rfl
      exact isPiece.whole List.mem_cons_self
    cases rest <;> simp [isAbsolute, joinPieces_cons_cons, differs]

/-- A spelling of pieces does not end with a separator. -/
theorem getLast?_joinPieces (nonempty : parts ≠ []) :
    ∃ last, (joinPieces parts).getLast? = some last ∧ last ≠ separator := by
  rcases List.eq_nil_or_concat parts with rfl | ⟨before, piece, rfl⟩
  · exact absurd rfl nonempty
  · rw [List.concat_eq_append] at arePieces ⊢
    have isPiece := arePieces piece (by simp)
    have ends := List.getLast?_eq_some_getLast isPiece.ne_nil
    refine ⟨piece.getLast isPiece.ne_nil, ?_, ?_⟩
    · cases before with
      | nil => simpa using ends
      | cons first rest =>
        rw [joinPieces_append (List.cons_ne_nil first rest) (List.cons_ne_nil piece []),
          joinPieces_singleton, List.getLast?_append, List.getLast?_cons, ends]
        simp
    · intro same
      exact isPiece.whole (same ▸ List.getLast_mem isPiece.ne_nil)

end

/-! ## Joining -/

/-- What a path puts before a relative one does not depend on that one. -/
theorem exists_lead (root : Path) :
    ∃ lead, ∀ next : Path, next.isAbsolute = false → root.join next = ⟨lead ++ next.bytes⟩ := by
  cases ends : root.bytes.getLast? with
  | none => exact ⟨[], fun next relative => by simp [join, relative, ends]⟩
  | some last =>
    by_cases isSeparator : last = separator
    · exact ⟨root.bytes, fun next relative => by simp [join, relative, ends, isSeparator]⟩
    · exact ⟨root.bytes ++ [separator], fun next relative => by
        simp [join, relative, ends, isSeparator]⟩

/-- A separator is put after a path that does not end with one. -/
theorem join_of_getLast? {bytes : Bytes} {last : UInt8} (ends : bytes.getLast? = some last)
    (differs : last ≠ separator) {next : Path} (relative : next.isAbsolute = false) :
    (⟨bytes⟩ : Path).join next = ⟨bytes ++ separator :: next.bytes⟩ := by
  simp [join, relative, ends, differs]

/-- Pieces can be put after a path at once or in two parts. -/
theorem join_joinPieces_append (root : Path) {first second : List Bytes} (firstSome : first ≠ [])
    (secondSome : second ≠ []) (arePieces : ∀ part ∈ first ++ second, IsPiece part) :
    root.join ⟨joinPieces (first ++ second)⟩ =
      (root.join ⟨joinPieces first⟩).join ⟨joinPieces second⟩ := by
  have firstPieces : ∀ part ∈ first, IsPiece part := fun part member =>
    arePieces part (List.mem_append_left _ member)
  have secondPieces : ∀ part ∈ second, IsPiece part := fun part member =>
    arePieces part (List.mem_append_right _ member)
  rcases exists_lead root with ⟨lead, joined⟩
  rcases getLast?_joinPieces firstPieces firstSome with ⟨last, ends, differs⟩
  have endsToo : (lead ++ joinPieces first).getLast? = some last := by
    rw [List.getLast?_append, ends, Option.some_or]
  rw [joined _ (isAbsolute_joinPieces arePieces), joined _ (isAbsolute_joinPieces firstPieces),
    join_of_getLast? endsToo differs (isAbsolute_joinPieces secondPieces),
    joinPieces_append firstSome secondSome, List.append_assoc]

/-! ## Components -/

/-- A component that is read the same wherever it stands. -/
def Component.IsPlain : Component → Prop
  | .up => True
  | .name bytes => IsName bytes
  | .root | .here => False

namespace Component.IsPlain

variable {part : Component} (plain : part.IsPlain)

include plain

theorem isPiece : IsPiece part.spelling := by
  cases part with
  | up => exact ⟨by decide, by decide⟩
  | name bytes => exact IsName.isPiece plain
  | root => exact plain.elim
  | here => exact plain.elim

theorem innerComponent? : Path.innerComponent? part.spelling = some part := by
  cases part with
  | up => rfl
  | name bytes => exact IsName.innerComponent? plain
  | root => exact plain.elim
  | here => exact plain.elim

theorem firstComponent? : Path.firstComponent? part.spelling = some part := by
  cases part with
  | up => rfl
  | name bytes => exact IsName.firstComponent? plain
  | root => exact plain.elim
  | here => exact plain.elim

end Component.IsPlain

section

variable {parts : List Component} (plain : ∀ part ∈ parts, part.IsPlain)

include plain

theorem isPiece_of_mem_spellings : ∀ piece ∈ parts.map Component.spelling, IsPiece piece := by
  intro piece member
  rcases List.mem_map.mp member with ⟨part, listed, rfl⟩
  exact (plain part listed).isPiece

/-- Plain components are spelled one after another. -/
theorem ofComponents_eq : ofComponents parts = ⟨joinPieces (parts.map Component.spelling)⟩ := by
  induction parts using List.reverseRecOn with
  | nil => rfl
  | append_singleton before last ih =>
    have beforePlain : ∀ part ∈ before, part.IsPlain := fun part member =>
      plain part (List.mem_append_left _ member)
    have step : ofComponents (before ++ [last]) = (ofComponents before).join ⟨last.spelling⟩ := by
      simp [ofComponents]
    have relative : (⟨last.spelling⟩ : Path).isAbsolute = false := by
      have lastPiece : ∀ piece ∈ [last.spelling], IsPiece piece := by
        simpa using (plain last (by simp)).isPiece
      simpa using isAbsolute_joinPieces lastPiece
    rw [step, ih beforePlain, List.map_append, List.map_singleton]
    cases before with
    | nil => simp [join, relative, joinPieces]
    | cons first rest =>
      rcases getLast?_joinPieces (isPiece_of_mem_spellings beforePlain) (by simp) with
        ⟨byte, ends, differs⟩
      rw [join_of_getLast? ends differs relative, joinPieces_append (by simp) (by simp),
        joinPieces_singleton]

/-- Plain components are read back. -/
theorem components_ofComponents : (ofComponents parts).components = parts := by
  cases parts with
  | nil => rfl
  | cons first rest =>
    have arePieces := isPiece_of_mem_spellings plain
    have cut : pieces (joinPieces ((first :: rest).map Component.spelling)) =
        (first :: rest).map Component.spelling :=
      pieces_joinPieces (by simp) fun piece member => (arePieces piece member).whole
    rcases List.forall_mem_cons.mp plain with ⟨firstPlain, restPlain⟩
    have inner : (rest.map Component.spelling).filterMap innerComponent? = rest := by
      rw [List.filterMap_map]
      calc rest.filterMap (innerComponent? ∘ Component.spelling)
          = rest.filterMap some :=
            List.filterMap_congr fun part member => (restPlain part member).innerComponent?
        _ = rest := List.filterMap_some
    rw [ofComponents_eq plain, components, isAbsolute_joinPieces arePieces, cut]
    simp [firstPlain.firstComponent?, inner]

end

/-! ## Names below a path, and the directory of a page -/

section

variable {above more : List Bytes} (aboveSome : above ≠ []) (moreSome : more ≠ [])
  (areNames : ∀ name ∈ above ++ more, IsName name)

include aboveSome moreSome areNames

theorem join_ofNames_append (root : Path) :
    root.join (ofNames (above ++ more)) = (root.join (ofNames above)).join (ofNames more) :=
  join_joinPieces_append root aboveSome moreSome fun name member => (areNames name member).isPiece

end

/-- A path of names does not begin with its root or with a dot; a dot at its start is followed by more of the
first name. -/
theorem leadLength_ofNames {names : List Bytes} (areNames : ∀ name ∈ names, IsName name) :
    (ofNames names).leadLength = 0 := by
  cases names with
  | nil => rfl
  | cons first rest =>
    have isName := areNames first List.mem_cons_self
    rcases List.exists_cons_of_ne_nil isName.ne_nil with ⟨byte, others, rfl⟩
    have notSeparator : byte ≠ separator := by
      rintro rfl
      exact isName.whole List.mem_cons_self
    have notHere : ¬ (byte = dot ∧ (others = [] ∨ others.head? = some separator)) := by
      rintro ⟨rfl, rfl | next⟩
      · exact isName.ne_dot rfl
      · exact isName.whole (List.mem_cons_of_mem _ (List.mem_of_head? next))
    cases rest with
    | nil => simp [leadLength, ofNames, notSeparator, notHere]
    | cons second rest =>
      cases others with
      | nil => simp_all [leadLength, ofNames, joinPieces_cons_cons]
      | cons next others => simp_all [leadLength, ofNames, joinPieces_cons_cons]

theorem trimPieces_of_names {names : List Bytes} (areNames : ∀ name ∈ names, IsName name) :
    trimPieces names = names := by
  rcases List.eq_nil_or_concat names with rfl | ⟨before, last, rfl⟩
  · rfl
  · rw [List.concat_eq_append] at areNames ⊢
    have isName := areNames last (by simp)
    simp [trimPieces, isName.ne_nil, isName.ne_dot]

/-- The parent of a path of names lacks the last of them. -/
theorem parent?_ofNames {before : List Bytes} {last : Bytes}
    (areNames : ∀ name ∈ before ++ [last], IsName name) :
    (ofNames (before ++ [last])).parent? = some (ofNames before) := by
  have beforeNames : ∀ name ∈ before, IsName name := fun name member =>
    areNames name (List.mem_append_left _ member)
  have cut : pieces (ofNames (before ++ [last])).bytes = before ++ [last] :=
    pieces_ofNames (by simp) areNames
  unfold parent?
  rw [leadLength_ofNames areNames, List.take_zero, List.drop_zero, cut, trimPieces_of_names areNames]
  simp only [List.reverse_append, List.reverse_singleton, List.singleton_append, List.reverse_reverse,
    trimPieces_of_names beforeNames, List.nil_append, ofNames]

end Path

end Marginalia
