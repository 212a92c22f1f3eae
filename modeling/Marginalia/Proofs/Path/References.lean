import Mathlib.Data.List.TakeWhile
import Marginalia.Proofs.Path.Links

/-!
# Links as references

A browser does not follow the segments of a link as they are written.  It reads the link as a relative
reference: a colon in the first segment ends a scheme, a question mark or a number sign ends the path, and in
a segment of the path a percent sign with two hexadecimal digits stands for one byte.  Links are made of names
as they are, so a name with one of these in it leads elsewhere.

The link from one page to another denotes that page exactly if none of this happens in it and the other page
is not, as far as names go, a directory of the first.  A link to such a directory has no name in it: it is
empty, which denotes the first page itself, or it ends in a double dot, which denotes a directory.
-/

namespace Marginalia

namespace Reference

/-- Whether a character ends the path of a reference. -/
def endsPath (c : Char) : Bool :=
  c == '?' || c == '#'

/-- The part of a text before the end of a path. -/
def cut (text : Text) : Text :=
  text.takeWhile (!endsPath ·)

/-- Whether a reference begins with a scheme. -/
def hasScheme (href : Text) : Bool :=
  ((cut href).takeWhile (· != '/')).contains ':'

/-- The byte that two hexadecimal digits after a percent sign stand for. -/
def escaped? (high low : Char) : Option UInt8 :=
  match Unicode.Hex.digit? high.toLower, Unicode.Hex.digit? low.toLower with
  | some first, some second => some (UInt8.ofNat (16 * first + second))
  | _, _ => none

/-- The name that a segment denotes.  A percent sign without two digits after it stands for itself. -/
def nameOf : Text → Bytes
  | [] => []
  | '%' :: high :: low :: rest =>
    match escaped? high low with
    | some byte => byte :: nameOf rest
    | none => String.utf8EncodeChar '%' ++ nameOf (high :: low :: rest)
  | c :: rest => String.utf8EncodeChar c ++ nameOf rest

/-- Follow the segments of a path from a directory.  What ends in a dot or in a double dot denotes a
directory; a directory is denoted by an empty last name. -/
def follow : List Path.Component → List Text → Option (List Path.Component)
  | place, [] => some place
  | place, segment :: rest =>
    if segment = Path.upSegment then
      if place = [] then none
      else if rest = [] then some (place.dropLast ++ [.name []])
      else follow place.dropLast rest
    else if segment = ['.'] then
      if rest = [] then some (place ++ [.name []]) else follow place rest
    else follow (place ++ [.name (nameOf segment)]) rest

/-- What a reference on a page denotes, if that is in the tree of pages. -/
def resolve (page : List Path.Component) (href : Text) : Option (List Path.Component) :=
  if hasScheme href then none
  else if cut href = [] then some page
  else if (cut href).head? = some '/' then none
  else follow page.dropLast ((cut href).splitOn '/')

/-- Two hexadecimal digits stand after a percent sign. -/
def HasEscape (segment : Text) : Prop :=
  ∃ high low, (escaped? high low).isSome = true ∧ ['%', high, low] <:+: segment

/-- A segment that denotes what it spells. -/
def IsLiteral (segment : Text) : Prop :=
  segment.any endsPath = false ∧ ¬ HasEscape segment

/-! ## Names of segments -/

theorem hasEscape_cons_iff {c : Char} {rest : Text} :
    HasEscape (c :: rest) ↔
      (∃ high low, (escaped? high low).isSome = true ∧ ['%', high, low] <+: c :: rest) ∨
        HasEscape rest := by
  unfold HasEscape
  constructor
  · rintro ⟨high, low, isByte, inside⟩
    rcases List.infix_cons_iff.mp inside with here | later
    · exact Or.inl ⟨high, low, isByte, here⟩
    · exact Or.inr ⟨high, low, isByte, later⟩
  · rintro (⟨high, low, isByte, here⟩ | ⟨high, low, isByte, later⟩)
    · exact ⟨high, low, isByte, here.isInfix⟩
    · exact ⟨high, low, isByte, List.infix_cons later⟩

theorem not_hasEscape_of_not_mem {segment : Text} (absent : '%' ∉ segment) : ¬ HasEscape segment := by
  rintro ⟨high, low, _, inside⟩
  exact absent (inside.subset List.mem_cons_self)

theorem length_encode_cons (c : Char) (rest : Text) :
    (Utf8.encode rest).length < (Utf8.encode (c :: rest)).length := by
  have positive := Char.utf8Size_pos c
  rw [Utf8.encode, Utf8.encode, List.flatMap_cons, List.length_append, String.length_utf8EncodeChar]
  omega

/-- A segment without an escape denotes its own bytes, since a character that begins no escape stands for
itself, whatever comes after it.  An escape makes the name shorter than that. -/
theorem nameOf_cases (segment : Text) :
    (nameOf segment = Utf8.encode segment ∧ ¬ HasEscape segment) ∨
      ((nameOf segment).length < (Utf8.encode segment).length ∧ HasEscape segment) := by
  have plain {c : Char} {rest : Text}
      (notHere : ¬ ∃ high low, (escaped? high low).isSome = true ∧ ['%', high, low] <+: c :: rest)
      (ih : (nameOf rest = Utf8.encode rest ∧ ¬ HasEscape rest) ∨
        ((nameOf rest).length < (Utf8.encode rest).length ∧ HasEscape rest)) :
      (String.utf8EncodeChar c ++ nameOf rest = Utf8.encode (c :: rest) ∧ ¬ HasEscape (c :: rest)) ∨
        ((String.utf8EncodeChar c ++ nameOf rest).length < (Utf8.encode (c :: rest)).length ∧
          HasEscape (c :: rest)) := by
    rw [hasEscape_cons_iff]
    rcases ih with ⟨same, noEscape⟩ | ⟨shorter, escape⟩
    · exact Or.inl ⟨by rw [same]; rfl, not_or.mpr ⟨notHere, noEscape⟩⟩
    · refine Or.inr ⟨?_, Or.inr escape⟩
      rw [Utf8.encode, List.flatMap_cons, List.length_append, List.length_append]
      exact Nat.add_lt_add_left shorter _
  fun_induction nameOf segment with
  | case1 => exact Or.inl ⟨rfl, not_hasEscape_of_not_mem List.not_mem_nil⟩
  | case2 high low rest byte isByte ih =>
    refine Or.inr ⟨?_, high, low, by rw [isByte]; rfl, (List.prefix_append _ rest).isInfix⟩
    have first := length_encode_cons '%' (high :: low :: rest)
    have second := length_encode_cons high (low :: rest)
    have third := length_encode_cons low rest
    have later : (nameOf rest).length ≤ (Utf8.encode rest).length := by
      rcases ih with ⟨same, _⟩ | ⟨shorter, _⟩
      · rw [same]
      · exact Nat.le_of_lt shorter
    rw [List.length_cons]
    omega
  | case3 high low rest noByte ih =>
    refine plain ?_ ih
    rintro ⟨high', low', isByte, here⟩
    have digits := (List.cons_prefix_cons.mp here).2
    rcases List.cons_prefix_cons.mp digits with ⟨rfl, lowDigit⟩
    rcases List.cons_prefix_cons.mp lowDigit with ⟨rfl, _⟩
    rw [noByte] at isByte
    cases isByte
  | case4 c rest notEscape ih =>
    refine plain ?_ ih
    rintro ⟨high, low, _, here⟩
    rcases List.cons_prefix_cons.mp here with ⟨rfl, more, rfl⟩
    exact notEscape high low more rfl rfl

theorem nameOf_eq_encode_iff {segment : Text} :
    nameOf segment = Utf8.encode segment ↔ ¬ HasEscape segment := by
  rcases nameOf_cases segment with ⟨same, noEscape⟩ | ⟨shorter, escape⟩
  · exact iff_of_true same noEscape
  · refine iff_of_false ?_ (not_not_intro escape)
    intro same
    rw [same] at shorter
    exact Nat.lt_irrefl _ shorter

theorem length_nameOf_le (segment : Text) :
    (nameOf segment).length ≤ (Utf8.encode segment).length := by
  rcases nameOf_cases segment with ⟨same, _⟩ | ⟨shorter, _⟩
  · rw [same]
  · exact Nat.le_of_lt shorter

theorem cut_eq_self_iff {text : Text} : cut text = text ↔ text.any endsPath = false := by
  rw [cut, List.takeWhile_eq_self_iff, List.any_eq_false]
  simp

/-- A segment that is cut off or has an escape denotes another name. -/
theorem nameOf_cut_eq_encode_iff (segment : Text) :
    nameOf (cut segment) = Utf8.encode segment ↔ IsLiteral segment := by
  rw [IsLiteral, ← cut_eq_self_iff]
  constructor
  · intro same
    have whole : cut segment = segment := by
      rcases List.takeWhile_prefix (l := segment) (!endsPath ·) with ⟨rest, split⟩
      change cut segment ++ rest = segment at split
      cases rest with
      | nil => exact (List.append_nil (cut segment)).symm.trans split
      | cons c rest =>
        have short := length_nameOf_le (cut segment)
        have more := length_encode_cons c rest
        have total := congrArg (fun text => (Utf8.encode text).length) split
        simp only [Utf8.encode, List.flatMap_append, List.length_append] at total
        rw [same] at short
        unfold Utf8.encode at short more
        omega
    rw [whole] at same
    exact ⟨whole, nameOf_eq_encode_iff.mp same⟩
  · rintro ⟨whole, noEscape⟩
    rw [whole, nameOf_eq_encode_iff.mpr noEscape]

/-! ## The path of a reference -/

/-- Segments up to the end of the path. -/
def cutAll : List Text → List Text
  | [] => []
  | segment :: rest => if segment.any endsPath then [cut segment] else segment :: cutAll rest

theorem cutAll_ne_nil {segments : List Text} (nonempty : segments ≠ []) : cutAll segments ≠ [] := by
  cases segments with
  | nil => exact absurd rfl nonempty
  | cons segment rest =>
    rw [cutAll]
    split <;> exact List.cons_ne_nil _ _

theorem cutAll_append {first : List Text} (clean : ∀ segment ∈ first, segment.any endsPath = false)
    (second : List Text) : cutAll (first ++ second) = first ++ cutAll second := by
  induction first with
  | nil => rfl
  | cons segment rest ih =>
    rcases List.forall_mem_cons.mp clean with ⟨here, later⟩
    rw [List.cons_append, cutAll, here, ih later]
    rfl

theorem cutAll_eq_self {segments : List Text} (clean : ∀ segment ∈ segments, segment.any endsPath = false) :
    cutAll segments = segments := by
  have whole := cutAll_append clean []
  rwa [List.append_nil, cutAll, List.append_nil] at whole

theorem isPrefix_of_mem_cutAll {segments : List Text} {part : Text} (member : part ∈ cutAll segments) :
    ∃ segment ∈ segments, part <+: segment := by
  induction segments with
  | nil => cases member
  | cons segment rest ih =>
    rw [cutAll] at member
    split at member
    · rw [List.mem_singleton.mp member]
      exact ⟨segment, List.mem_cons_self, List.takeWhile_prefix _⟩
    · rcases List.mem_cons.mp member with rfl | later
      · exact ⟨part, List.mem_cons_self, List.prefix_rfl⟩
      · rcases ih later with ⟨other, listed, isPrefix⟩
        exact ⟨other, List.mem_cons_of_mem _ listed, isPrefix⟩

theorem intercalate_cons {segment : Text} {rest : List Text} (nonempty : rest ≠ []) :
    ['/'].intercalate (segment :: rest) = segment ++ '/' :: ['/'].intercalate rest := by
  rcases List.exists_cons_of_ne_nil nonempty with ⟨next, others, rfl⟩
  simp [List.intercalate, List.intersperse]

theorem mem_of_mem_intercalate {segments : List Text} {c : Char}
    (member : c ∈ ['/'].intercalate segments) : c = '/' ∨ ∃ segment ∈ segments, c ∈ segment := by
  induction segments with
  | nil => cases member
  | cons segment rest ih =>
    by_cases last : rest = []
    · subst last
      exact Or.inr ⟨segment, List.mem_singleton_self _, by simpa [List.intercalate] using member⟩
    · rw [intercalate_cons last] at member
      rcases List.mem_append.mp member with here | later
      · exact Or.inr ⟨segment, List.mem_cons_self, here⟩
      · rcases List.mem_cons.mp later with isSlash | later
        · exact Or.inl isSlash
        · rcases ih later with isSlash | ⟨other, listed, inside⟩
          · exact Or.inl isSlash
          · exact Or.inr ⟨other, List.mem_cons_of_mem _ listed, inside⟩

theorem cut_intercalate (segments : List Text) :
    cut (['/'].intercalate segments) = ['/'].intercalate (cutAll segments) := by
  induction segments with
  | nil => rfl
  | cons segment rest ih =>
    rw [cutAll]
    cases rest with
    | nil =>
      split
      · simp [List.intercalate]
      · rename_i clean
        have whole := cut_eq_self_iff.mpr (Bool.not_eq_true _ ▸ clean)
        simpa [List.intercalate, cutAll] using whole
    | cons next others =>
      rw [intercalate_cons (List.cons_ne_nil next others)]
      split
      · rename_i ends
        have short : (segment.takeWhile (!endsPath ·)).length ≠ segment.length := by
          intro whole
          have all := cut_eq_self_iff.mp ((List.takeWhile_prefix _).eq_of_length whole)
          rw [all] at ends
          cases ends
        rw [cut, List.takeWhile_append, if_neg short]
        simp [List.intercalate, cut]
      · rename_i clean
        have whole := cut_eq_self_iff.mpr (Bool.not_eq_true _ ▸ clean)
        rw [intercalate_cons (cutAll_ne_nil (List.cons_ne_nil next others)), ← ih]
        change segment.takeWhile (!endsPath ·) = segment at whole
        rw [cut, List.takeWhile_append, whole, if_pos rfl, List.takeWhile_cons_of_pos rfl]
        rfl

/-! ## Following a path -/

open Marginalia.Path

/-- Double dots leave as many components, the last one first.  A last double dot denotes a directory, so something
has to follow them. -/
theorem follow_ups (place more : List Component) {rest : List Text} (nonempty : rest ≠ []) :
    follow (place ++ more) (List.replicate more.length upSegment ++ rest) = follow place rest := by
  induction more using List.reverseRecOn with
  | nil => simp
  | append_singleton more last ih =>
    have someplace : place ++ (more ++ [last]) ≠ [] := by simp
    have further : List.replicate more.length upSegment ++ rest ≠ [] := by simp [nonempty]
    have left : (place ++ (more ++ [last])).dropLast = place ++ more := by
      rw [← List.append_assoc, List.dropLast_concat]
    rw [List.length_append, List.length_singleton, List.replicate_succ, List.cons_append, follow,
      if_pos rfl, if_neg someplace, if_neg further, left, ih]

/-- What a last segment adds is a name only if the segment is not a dot or a double dot. -/
theorem follow_last_iff (place front : List Component) {segment : Text} {name : Bytes} (named : name ≠ []) :
    follow place [segment] = some (front ++ [.name name]) ↔
      place = front ∧ segment ≠ upSegment ∧ segment ≠ ['.'] ∧ nameOf segment = name := by
  rw [follow]
  by_cases isUp : segment = upSegment
  · rw [if_pos isUp]
    split <;> simp [isUp, Ne.symm named]
  · rw [if_neg isUp]
    by_cases isDot : segment = ['.']
    · simp [isDot, Ne.symm named]
    · simp [isUp, isDot, follow]

theorem length_follow_last {place result : List Component} {segment : Text}
    (followed : follow place [segment] = some result) : result.length ≤ place.length + 1 := by
  rw [follow] at followed
  split at followed
  · split at followed
    · cases followed
    · cases followed
      simp
  · split at followed
    · cases followed
      simp
    · cases followed
      simp

section

variable {names : List Bytes} (areNames : ∀ name ∈ names, IsName name)
  (areTexts : ∀ name ∈ names, IsText name)

include areNames areTexts

theorem not_dots_of_name {name : Bytes} (member : name ∈ names) :
    Utf8.decodeLossy name ≠ upSegment ∧ Utf8.decodeLossy name ≠ ['.'] := by
  refine ⟨decodeLossy_ne_upSegment (areNames name member) (areTexts name member), ?_⟩
  intro isDot
  have bytesDot := encode_decodeLossy (areTexts name member)
  rw [isDot] at bytesDot
  exact (areNames name member).ne_dot (bytesDot.symm.trans (by decide))

/-- Names are followed to where they lead exactly when each of them is literal. -/
theorem follow_cutAll_iff (nonempty : names ≠ []) (place front : List Component)
    (level : place.length = front.length) :
    follow place (cutAll (names.map Utf8.decodeLossy)) = some (front ++ names.map .name) ↔
      place = front ∧ ∀ name ∈ names, IsLiteral (Utf8.decodeLossy name) := by
  induction names generalizing place front with
  | nil => exact absurd rfl nonempty
  | cons name rest ih =>
    rcases not_dots_of_name areNames areTexts List.mem_cons_self with ⟨notUp, notDot⟩
    have spelled := encode_decodeLossy (areTexts name List.mem_cons_self)
    have named := (areNames name List.mem_cons_self).ne_nil
    have literal_iff := nameOf_cut_eq_encode_iff (Utf8.decodeLossy name)
    rw [spelled] at literal_iff
    cases rest with
    | nil =>
      have last : cutAll [Utf8.decodeLossy name] = [cut (Utf8.decodeLossy name)] := by
        rw [cutAll]
        split
        · rfl
        · rename_i clean
          rw [cut_eq_self_iff.mpr (Bool.not_eq_true _ ▸ clean)]
          rfl
      rw [List.map_singleton, List.map_singleton, last, follow_last_iff place front named, literal_iff,
        List.forall_mem_singleton]
      constructor
      · rintro ⟨here, _, _, literal⟩
        exact ⟨here, literal⟩
      · rintro ⟨here, literal⟩
        rw [cut_eq_self_iff.mpr literal.1]
        exact ⟨here, notUp, notDot, literal⟩
    | cons next others =>
      rw [List.map_cons, cutAll]
      by_cases ends : (Utf8.decodeLossy name).any endsPath = true
      · rw [if_pos ends]
        refine iff_of_false ?_ ?_
        · intro followed
          have short := length_follow_last followed
          simp only [List.map_cons, List.length_append, List.length_cons] at short
          omega
        · rintro ⟨_, literal⟩
          have clean := (literal name List.mem_cons_self).1
          rw [ends] at clean
          cases clean
      · have whole := cut_eq_self_iff.mpr (Bool.not_eq_true _ ▸ ends)
        rw [whole] at literal_iff
        have target : front ++ (name :: next :: others).map Component.name =
            (front ++ [.name name]) ++ (next :: others).map .name := by simp
        have same_iff : place ++ [Component.name (nameOf (Utf8.decodeLossy name))] =
            front ++ [.name name] ↔ place = front ∧ nameOf (Utf8.decodeLossy name) = name := by
          simp
        rw [if_neg ends, follow, if_neg notUp, if_neg notDot, target,
          ih (fun name member => areNames name (List.mem_cons_of_mem _ member))
            (fun name member => areTexts name (List.mem_cons_of_mem _ member)) (List.cons_ne_nil _ _)
            _ _ (by simp [level]), same_iff, literal_iff, List.forall_mem_cons (a := name), and_assoc]

end

/-- Double dots alone lead to a directory and not to a page. -/
theorem follow_only_ups (place : List Component) {more : List Component} (some_more : more ≠ []) :
    follow (place ++ more) (List.replicate more.length upSegment) = some (place ++ [.name []]) := by
  rcases List.exists_cons_of_ne_nil some_more with ⟨first, more, rfl⟩
  have last : follow (place ++ [first]) [upSegment] = some (place ++ [.name []]) := by
    rw [follow, if_pos rfl, if_neg (by simp), if_pos rfl, List.dropLast_concat]
  rw [List.length_cons, List.replicate_succ', ← last, ← follow_ups _ more (List.cons_ne_nil _ _),
    List.append_assoc, List.singleton_append]

/-- The first segment of what is left of a path has a character, or the path is empty: only a cut can empty a
segment, and nothing is left behind a cut. -/
theorem head?_cutAll {segments : List Text} (whole : ∀ segment ∈ segments, segment ≠ [] ∧ '/' ∉ segment)
    (spelled : cutAll segments ≠ [[]]) {c : Char}
    (isHead : (['/'].intercalate (cutAll segments)).head? = some c) : c ≠ '/' := by
  cases cutSegments : cutAll segments with
  | nil =>
    rw [cutSegments] at isHead
    cases isHead
  | cons first rest =>
    rw [cutSegments] at isHead spelled
    have noSlash : '/' ∉ first := by
      rcases isPrefix_of_mem_cutAll (cutSegments ▸ List.mem_cons_self) with ⟨segment, listed, isPrefix⟩
      exact fun member => (whole segment listed).2 (isPrefix.subset member)
    cases first with
    | nil =>
      exfalso
      cases segments with
      | nil => cases cutSegments
      | cons segment others =>
        rw [cutAll] at cutSegments
        split at cutSegments
        · rw [List.cons.inj cutSegments |>.2.symm] at spelled
          exact spelled rfl
        · exact (whole segment List.mem_cons_self).1 (List.cons.inj cutSegments).1
    | cons d first =>
      have isFirst : d = c := by
        cases rest with
        | nil => simpa [List.intercalate] using isHead
        | cons next others =>
          rw [intercalate_cons (List.cons_ne_nil next others)] at isHead
          simpa using isHead
      rintro rfl
      exact noSlash (isFirst ▸ List.mem_cons_self)

theorem resolve_intercalate {segments : List Text} (nonempty : segments ≠ [])
    (whole : ∀ segment ∈ segments, segment ≠ [] ∧ '/' ∉ segment) {page target : List Component}
    (differ : page ≠ target) :
    resolve page (['/'].intercalate segments) = some target ↔
      hasScheme (['/'].intercalate segments) = false ∧ cutAll segments ≠ [[]] ∧
        follow page.dropLast (cutAll segments) = some target := by
  unfold resolve
  rw [cut_intercalate]
  cases hasScheme (['/'].intercalate segments) with
  | true => simp
  | false =>
    by_cases nothing : cutAll segments = [[]]
    · simp [nothing, List.intercalate, differ]
    · have cutWhole : ∀ part ∈ cutAll segments, '/' ∉ part := by
        intro part member
        rcases isPrefix_of_mem_cutAll member with ⟨segment, listed, isPrefix⟩
        exact fun slash => (whole segment listed).2 (isPrefix.subset slash)
      have readBack := List.splitOn_intercalate '/' cutWhole (cutAll_ne_nil nonempty)
      have spelled : ['/'].intercalate (cutAll segments) ≠ [] := by
        intro nil
        rw [nil] at readBack
        exact nothing readBack.symm
      have relative : (['/'].intercalate (cutAll segments)).head? ≠ some '/' := fun isHead =>
        head?_cutAll whole nothing isHead rfl
      simp [nothing, spelled, relative, readBack]

end Reference

namespace Path

open Reference

/-- A page with a name of its own in the link to it is not above the page that has the link. -/
theorem not_isPrefix_of_longestCommon {common source target : List Component} {names : List Bytes}
    (longest : LongestCommon common source.dropLast target) (whole : target = common ++ names.map .name)
    (nonempty : names ≠ []) (differ : source ≠ target) : ¬ target <+: source := by
  intro isPrefix
  have above : target <+: source.dropLast := by
    rcases List.eq_nil_or_concat source with rfl | ⟨before, last, rfl⟩
    · exact isPrefix
    · rw [List.concat_eq_append] at isPrefix differ ⊢
      rw [List.dropLast_concat]
      rcases List.prefix_concat_iff.mp isPrefix with same | above
      · exact absurd same.symm differ
      · exact above
  have short := longest.longest target above List.prefix_rfl
  have long := List.length_pos_iff.mpr nonempty
  rw [whole, List.length_append, List.length_map] at short
  omega

/-- The link from one page to another denotes the other page exactly when that is not above the first and
nothing in the link is read as anything but a name.  If the link has no name in it, the other page is among the
directories of the first.  If it has one and is literal, nothing is cut off and every segment has a character. -/
theorem resolve_linkTo_page_iff (source target : Path)
    (areTexts : ∀ name ∈ target.namesOfPage, IsText name)
    (differ : source.page.components ≠ target.page.components) :
    resolve source.page.components (source.page.linkTo target.page) = some target.page.components ↔
      ¬ target.page.components <+: source.page.components ∧
        hasScheme (source.page.linkTo target.page) = false ∧
        ∀ segment ∈ segments (source.page.linkTo target.page), IsLiteral segment := by
  rcases linkTo_page source target with ⟨common, above, names, directory, whole, listed, longest, link⟩
  have areNames : ∀ name ∈ names, IsName name := fun name member =>
    target.isName_of_mem_namesOfPage name (listed name member)
  have namesText : ∀ name ∈ names, IsText name := fun name member => areTexts name (listed name member)
  have wholeParts := whole_of_mem_linkSegments areNames above.length
  have upsLiteral : ∀ part ∈ List.replicate above.length upSegment, IsLiteral part := by
    intro part member
    cases List.eq_of_mem_replicate member
    exact ⟨by decide, not_hasEscape_of_not_mem (by decide)⟩
  have upsClean : ∀ part ∈ List.replicate above.length upSegment, part.any endsPath = false :=
    fun part member => (upsLiteral part member).1
  rw [link, segments_intercalate wholeParts, List.forall_mem_append]
  by_cases noName : names = []
  · subst noName
    rw [List.map_nil, List.append_nil] at whole wholeParts
    have isAbove : target.page.components <+: source.page.components :=
      whole ▸ longest.left.trans (List.dropLast_prefix _)
    refine iff_of_false ?_ (fun literal => literal.1 isAbove)
    rw [List.map_nil, List.append_nil]
    by_cases noUp : above = []
    · subst noUp
      exact fun resolved => differ (Option.some.inj resolved)
    · have someUp : List.replicate above.length upSegment ≠ [] := by simpa using noUp
      rw [resolve_intercalate someUp wholeParts differ, cutAll_eq_self upsClean, directory,
        follow_only_ups common noUp, whole]
      simp
  · have notAbove := not_isPrefix_of_longestCommon longest whole noName differ
    have someText : names.map Utf8.decodeLossy ≠ [] := by simpa using noName
    have texts_iff := follow_cutAll_iff areNames namesText noName common common rfl
    rw [resolve_intercalate (List.append_ne_nil_of_right_ne_nil _ someText) wholeParts differ,
      cutAll_append upsClean, directory, Reference.follow_ups common above (cutAll_ne_nil someText), whole, texts_iff,
      List.forall_mem_map]
    constructor
    · rintro ⟨noScheme, _, _, literal⟩
      exact ⟨whole ▸ notAbove, noScheme, upsLiteral, literal⟩
    · rintro ⟨_, noScheme, _, literal⟩
      refine ⟨noScheme, ?_, rfl, literal⟩
      rw [cutAll_eq_self (List.forall_mem_map.mpr fun name member => (literal name member).1)]
      intro nothing
      have member : [] ∈ List.replicate above.length upSegment ++ names.map Utf8.decodeLossy := by
        rw [nothing]
        exact List.mem_singleton_self []
      exact (wholeParts [] member).1 rfl

/-- A link to a page whose names have none of the four signs is literal. -/
theorem literal_linkTo_page (source target : Path)
    (unmarked : ∀ name ∈ target.namesOfPage, ∀ c ∈ Utf8.decodeLossy name, c ∉ ['?', '#', '%', ':']) :
    hasScheme (source.page.linkTo target.page) = false ∧
      ∀ segment ∈ segments (source.page.linkTo target.page), IsLiteral segment := by
  rcases linkTo_page source target with ⟨_, above, names, _, _, listed, _, link⟩
  have wholeParts := whole_of_mem_linkSegments
    (fun name member => target.isName_of_mem_namesOfPage name (listed name member)) above.length
  have unmarkedParts : ∀ part ∈ List.replicate above.length upSegment ++ names.map Utf8.decodeLossy,
      ∀ c ∈ part, c ∉ ['?', '#', '%', ':'] := by
    intro part member
    rcases List.mem_append.mp member with isUp | isName
    · cases List.eq_of_mem_replicate isUp
      rw [upSegment, String.toList_ofList]
      simp
    · rcases List.mem_map.mp isName with ⟨name, inNames, rfl⟩
      exact unmarked name (listed name inNames)
  rw [link, segments_intercalate wholeParts]
  constructor
  · rw [hasScheme, List.contains_eq_mem, decide_eq_false_iff_not]
    intro inScheme
    have inLink := (List.takeWhile_prefix _).subset ((List.takeWhile_prefix _).subset inScheme)
    rcases mem_of_mem_intercalate inLink with isSlash | ⟨part, member, inside⟩
    · cases isSlash
    · exact unmarkedParts part member ':' inside (by decide)
  · intro part member
    refine ⟨?_, not_hasEscape_of_not_mem ?_⟩
    · rw [List.any_eq_false]
      intro c inside ends
      rcases Bool.or_eq_true_iff.mp ends with isMark | isMark
      · exact unmarkedParts part member c inside (by simp [eq_of_beq isMark])
      · exact unmarkedParts part member c inside (by simp [eq_of_beq isMark])
    · exact fun inside => unmarkedParts part member '%' inside (by decide)

end Path

namespace Document

/--
Read as a reference, the link from a page to a different one denotes it exactly when it is not above the page
that has the link, no colon stands in the first segment, and no segment has a question mark, a number sign or
an escape.  This is so when no name of the other page has one of the four signs.
-/
theorem navigation_denotes_iff (documents : List Document) (current : Document)
    (pages : ∀ document ∈ documents, ∃ path : Path, document.page = path.page)
    (texts : ∀ document ∈ documents, ∀ name, .name name ∈ document.page.components → Path.IsText name)
    (listed : current ∈ documents) :
    List.Forall₂
      (fun document link => current.page.components ≠ document.page.components →
        (Reference.resolve current.page.components link.href = some document.page.components ↔
          ¬ document.page.components <+: current.page.components ∧
            Reference.hasScheme link.href = false ∧
            ∀ segment ∈ Path.segments link.href, Reference.IsLiteral segment) ∧
        ((∀ name, .name name ∈ document.page.components →
            ∀ c ∈ Utf8.decodeLossy name, c ∉ ['?', '#', '%', ':']) →
          ¬ document.page.components <+: current.page.components →
          Reference.resolve current.page.components link.href = some document.page.components))
      documents (current.navigation documents) := by
  unfold navigation
  rw [List.forall₂_map_right_iff, List.forall₂_same]
  intro document member differ
  rcases pages current listed with ⟨source, isSource⟩
  rcases pages document member with ⟨target, isTarget⟩
  have inPage {name : Bytes} (isName : name ∈ target.namesOfPage) :
      .name name ∈ document.page.components := by
    rw [isTarget, Path.components_page]
    exact List.mem_map_of_mem isName
  have areTexts : ∀ name ∈ target.namesOfPage, Path.IsText name := fun name isName =>
    texts document member name (inPage isName)
  have denotes_iff := Path.resolve_linkTo_page_iff source target areTexts (by rwa [← isSource, ← isTarget])
  rw [← isSource, ← isTarget] at denotes_iff
  refine ⟨denotes_iff, ?_⟩
  intro unmarked notAbove
  have literal := Path.literal_linkTo_page source target fun name isName =>
    unmarked name (inPage isName)
  rw [← isSource, ← isTarget] at literal
  exact denotes_iff.mpr ⟨notAbove, literal⟩

/-- Three files, one of them with a number sign in its name. -/
def marked : List Document :=
  ["a", "d/é", "b#c"].map fun name => .make (.ofText name.toList) (.ofText name.toList)

/-- From the first page the second one can be reached; the link to the third has a sign in it. -/
theorem navigation_denotes_iff_marked :
    (∀ document ∈ marked, ∃ path : Path, document.page = path.page) ∧
      (∀ document ∈ marked, ∀ name, .name name ∈ document.page.components → Path.IsText name) ∧
      ∃ current ∈ marked,
        (current.navigation marked).map Html.PageLink.href =
          ["a.html".toList, "d/é.html".toList, "b#c.html".toList] ∧
        List.Forall₂
          (fun document link => current.page.components ≠ document.page.components →
            (Reference.resolve current.page.components link.href = some document.page.components ↔
              ¬ document.page.components <+: current.page.components ∧
                Reference.hasScheme link.href = false ∧
                ∀ segment ∈ Path.segments link.href, Reference.IsLiteral segment))
          marked (current.navigation marked) := by
  have pages : ∀ document ∈ marked, ∃ path : Path, document.page = path.page := by
    intro document member
    rcases List.mem_map.mp member with ⟨name, _, rfl⟩
    exact ⟨_, rfl⟩
  have readBack : ∀ document ∈ marked, ∀ part ∈ document.page.components,
      Utf8.encode (Utf8.decodeLossy part.spelling) = part.spelling := by
    decide +kernel
  have texts : ∀ document ∈ marked, ∀ name, .name name ∈ document.page.components →
      Path.IsText name := by
    intro document member name inside
    exact ⟨Utf8.decodeLossy name, readBack document member _ inside⟩
  have listed : .make (.ofText "a".toList) (.ofText "a".toList) ∈ marked := by
    decide +kernel
  exact ⟨pages, texts, _, listed, by decide +kernel,
    (navigation_denotes_iff marked _ pages texts listed).imp fun _ _ both differ => (both differ).1⟩

/-- The link to the third page denotes a file with the part of its name before the number sign. -/
theorem navigation_misses_numberSign :
    ∃ current ∈ marked, ∃ document ∈ marked,
      current.page.components ≠ document.page.components ∧
        ⟨"b#c".toList, "b#c.html".toList⟩ ∈ current.navigation marked ∧
        document.page.components = [.name (Utf8.encode "b#c.html".toList)] ∧
        Reference.resolve current.page.components "b#c.html".toList =
          some [.name (Utf8.encode "b".toList)] := by
  refine ⟨.make (.ofText "a".toList) (.ofText "a".toList), by decide +kernel,
    .make (.ofText "b#c".toList) (.ofText "b#c".toList), by decide +kernel, ?_⟩
  decide +kernel

end Document

end Marginalia
