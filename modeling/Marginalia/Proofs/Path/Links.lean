import Mathlib.Data.List.Forall2
import Mathlib.Data.List.Infix
import Marginalia.Proofs.Path.Spelling
import Marginalia.Proofs.Text.RawLines
import Marginalia.Run.Document

/-!
# Where links lead

A link is text.  It is followed from the directory of the page that holds it: a double dot leads out of a
directory and every other segment is a name.  Followed in this way, the link from one page to another ends
at the other page.  It leaves only the directories that the two pages do not share, and leaves them first.

A page may be a directory of the page that links to it, as far as names go; the link is then empty or made
of double dots only.  What a browser makes of a segment is another matter: a name with a question mark or a
number sign in it is followed here as it is written.
-/

namespace Marginalia

namespace Path

/-- The segment that leads out of a directory. -/
def upSegment : Text := "..".toList

/-- The segments of a link; an empty link has none. -/
def segments (href : Text) : List Text :=
  if href = [] then [] else href.splitOn '/'

/-- Follow segments from a directory.  There is no way out of the topmost one. -/
def follow : List Component → List Text → Option (List Component)
  | place, [] => some place
  | place, segment :: rest =>
    if segment = upSegment then
      if place = [] then none else follow place.dropLast rest
    else follow (place ++ [.name (Utf8.encode segment)]) rest

/-- The longest list with which both lists begin. -/
structure LongestCommon (common first second : List Component) : Prop where
  left : common <+: first
  right : common <+: second
  longest : ∀ other, other <+: first → other <+: second → other.length ≤ common.length

/-- A link leads from one path to another.  It begins with as many double dots as there are directories
to leave, and has no other. -/
structure LeadsTo (source target : Path) (href : Text) : Prop where
  arrives : follow source.components.dropLast (segments href) = some target.components
  leaves : ∃ common rest,
    LongestCommon common source.components.dropLast target.components ∧
      segments href =
        List.replicate (source.components.dropLast.length - common.length) upSegment ++ rest ∧
      upSegment ∉ rest

/-! ## The components of a relative path -/

theorem LongestCommon.nil_left (second : List Component) : LongestCommon [] [] second where
  left := List.prefix_rfl
  right := List.nil_prefix
  longest := fun _ isPrefix _ => isPrefix.length_le

theorem LongestCommon.nil_right (first : List Component) : LongestCommon [] first [] where
  left := List.nil_prefix
  right := List.prefix_rfl
  longest := fun _ _ isPrefix => isPrefix.length_le

theorem LongestCommon.of_ne {part other : Component} (differ : part ≠ other)
    (first second : List Component) : LongestCommon [] (part :: first) (other :: second) where
  left := List.nil_prefix
  right := List.nil_prefix
  longest := by
    intro common left right
    cases common with
    | nil => exact Nat.le_refl _
    | cons head _ =>
      have isPart := (List.cons_prefix_cons.mp left).1
      have isOther := (List.cons_prefix_cons.mp right).1
      exact absurd (isPart.symm.trans isOther) differ

theorem LongestCommon.cons {common first second : List Component}
    (longest : LongestCommon common first second) (part : Component) :
    LongestCommon (part :: common) (part :: first) (part :: second) where
  left := List.cons_prefix_cons.mpr ⟨rfl, longest.left⟩
  right := List.cons_prefix_cons.mpr ⟨rfl, longest.right⟩
  longest := by
    intro other left right
    cases other with
    | nil => exact Nat.zero_le _
    | cons head rest =>
      have shorter := longest.longest rest (List.cons_prefix_cons.mp left).2
        (List.cons_prefix_cons.mp right).2
      exact Nat.succ_le_succ shorter

/-- From the end of a path one goes up through all that is left of the base. -/
theorem difference_nil (base : List Component) :
    difference true [] base = some (List.replicate base.length .up) := by
  induction base with
  | nil => rfl
  | cons other base ih => simp [difference, ih, List.replicate_succ]

/-- The common components are left out, the rest of the base is left, and the rest of the path follows.
Only while components agree is anything left out, so the first that differ end what is common.  No path
leads out of a double dot, and a dot is passed over in a way of its own. -/
theorem difference_eq (path base : List Component)
    (plain : ∀ part ∈ base, part ≠ .here ∧ part ≠ .up) :
    ∃ common pathRest baseRest, path = common ++ pathRest ∧ base = common ++ baseRest ∧
      LongestCommon common base path ∧
      difference false path base = some (List.replicate baseRest.length .up ++ pathRest) := by
  induction path generalizing base with
  | nil =>
    refine ⟨[], [], base, rfl, rfl, .nil_right base, ?_⟩
    cases base with
    | nil => rfl
    | cons other base => simp [difference, difference_nil, List.replicate_succ]
  | cons part path ih =>
    cases base with
    | nil => exact ⟨[], part :: path, [], rfl, rfl, .nil_left _, rfl⟩
    | cons other base =>
      rcases List.forall_mem_cons.mp plain with ⟨⟨notHere, notUp⟩, restPlain⟩
      by_cases same : part = other
      · subst same
        rcases ih base restPlain with ⟨common, pathRest, baseRest, rfl, rfl, longest, result⟩
        refine ⟨part :: common, pathRest, baseRest, rfl, rfl, longest.cons part, ?_⟩
        rw [← result]
        simp [difference]
      · refine ⟨[], part :: path, other :: base, rfl, rfl, .of_ne (Ne.symm same) base path, ?_⟩
        cases other with
        | here => exact absurd rfl notHere
        | up => exact absurd rfl notUp
        | root => simp [difference, same, List.replicate_succ]
        | name bytes => simp [difference, same, List.replicate_succ]

/-! ## Following segments -/

/-- Bytes that are written in UTF-8. -/
def IsText (bytes : Bytes) : Prop :=
  ∃ text, Utf8.encode text = bytes

theorem upSegment_spelling : Utf8.decodeLossy Component.up.spelling = upSegment := by decide

theorem slash_not_mem_upSegment : '/' ∉ upSegment := by decide

section

variable {bytes : Bytes} (isName : IsName bytes) (isText : IsText bytes)

include isText

theorem encode_decodeLossy : Utf8.encode (Utf8.decodeLossy bytes) = bytes := by
  rcases isText with ⟨text, rfl⟩
  rw [Utf8.decodeLossy_encode]

include isName

theorem decodeLossy_ne_upSegment : Utf8.decodeLossy bytes ≠ upSegment := by
  intro isUp
  have bytesUp := encode_decodeLossy isText
  rw [isUp] at bytesUp
  exact isName.ne_dots (bytesUp.symm.trans (by decide))

end

theorem segments_intercalate {parts : List Text} (whole : ∀ part ∈ parts, part ≠ [] ∧ '/' ∉ part) :
    segments (['/'].intercalate parts) = parts := by
  cases parts with
  | nil => rfl
  | cons first rest =>
    have spelled : ['/'].intercalate (first :: rest) ≠ [] := by
      have nonempty := (whole first List.mem_cons_self).1
      cases rest <;> simp [List.intercalate, nonempty]
    rw [segments, if_neg spelled, List.splitOn_intercalate '/' (fun part member => (whole part member).2)
      (List.cons_ne_nil first rest)]

/-- As many double dots as there are components at the end of a place leave them, the last one first. -/
theorem follow_ups (place more : List Component) (rest : List Text) :
    follow (place ++ more) (List.replicate more.length upSegment ++ rest) = follow place rest := by
  induction more using List.reverseRecOn with
  | nil => simp
  | append_singleton more last ih =>
    have someplace : place ++ (more ++ [last]) ≠ [] := by simp
    have left : (place ++ (more ++ [last])).dropLast = place ++ more := by
      rw [← List.append_assoc, List.dropLast_concat]
    rw [List.length_append, List.length_singleton, List.replicate_succ, List.cons_append, follow,
      if_pos rfl, if_neg someplace, left, ih]

theorem follow_names (place : List Component) {names : List Bytes}
    (areNames : ∀ name ∈ names, IsName name) (areTexts : ∀ name ∈ names, IsText name) :
    follow place (names.map Utf8.decodeLossy) = some (place ++ names.map .name) := by
  induction names generalizing place with
  | nil => simp [follow]
  | cons name rest ih =>
    rcases List.forall_mem_cons.mp areNames with ⟨isName, restNames⟩
    rcases List.forall_mem_cons.mp areTexts with ⟨isText, restTexts⟩
    rw [List.map_cons, follow, if_neg (decodeLossy_ne_upSegment isName isText),
      encode_decodeLossy isText, ih _ restNames restTexts]
    simp

/-- Double dots and names can be told apart again when slashes are put between them. -/
theorem whole_of_mem_linkSegments {names : List Bytes} (areNames : ∀ name ∈ names, IsName name)
    (count : Nat) :
    ∀ part ∈ List.replicate count upSegment ++ names.map Utf8.decodeLossy, part ≠ [] ∧ '/' ∉ part := by
  intro part member
  rcases List.mem_append.mp member with isUp | isName
  · cases List.eq_of_mem_replicate isUp
    exact ⟨List.cons_ne_nil _ _, slash_not_mem_upSegment⟩
  · rcases List.mem_map.mp isName with ⟨name, inNames, rfl⟩
    refine ⟨Utf8.decodeLossy_ne_nil (areNames name inNames).ne_nil, fun slash => ?_⟩
    exact (areNames name inNames).whole (Utf8.mem_of_mem_decodeLossy (by decide) slash)

/-! ## Links between pages -/

theorem components_parent_page (source : Path) :
    ∃ directory, source.page.parent? = some directory ∧ directory.isAbsolute = false ∧
      directory.components = source.page.components.dropLast ∧
      ∀ part ∈ directory.components, part ≠ .here ∧ part ≠ .up := by
  have areNames := source.isName_of_mem_namesOfPage
  rcases List.eq_nil_or_concat source.namesOfPage with nothing | ⟨before, last, named⟩
  · exact absurd nothing source.namesOfPage_ne_nil
  · rw [List.concat_eq_append] at named
    rw [named] at areNames
    have beforeNames : ∀ name ∈ before, IsName name := fun name member =>
      areNames name (List.mem_append_left _ member)
    have components : (ofNames before).components = before.map .name := by
      cases before with
      | nil => rfl
      | cons first rest => exact components_ofNames (List.cons_ne_nil first rest) beforeNames
    refine ⟨ofNames before, ?_, ?_, ?_, ?_⟩
    · rw [page_eq_ofNames, named, parent?_ofNames areNames]
    · exact isAbsolute_joinPieces fun name member => (beforeNames name member).isPiece
    · rw [components_page, named, List.map_append, List.map_singleton, List.dropLast_concat, components]
    · intro part member
      rw [components] at member
      rcases List.mem_map.mp member with ⟨name, _, rfl⟩
      exact ⟨by simp, by simp⟩

/-- The link from one page to another goes up from the directory of the first to what the two have in
common, and from there by name. -/
theorem linkTo_page (source target : Path) :
    ∃ (common above : List Component) (names : List Bytes),
      source.page.components.dropLast = common ++ above ∧
      target.page.components = common ++ names.map .name ∧
      (∀ name ∈ names, name ∈ target.namesOfPage) ∧
      LongestCommon common source.page.components.dropLast target.page.components ∧
      source.page.linkTo target.page = ['/'].intercalate
        (List.replicate above.length upSegment ++ names.map Utf8.decodeLossy) := by
  have areNames := target.isName_of_mem_namesOfPage
  have relativeTarget : target.page.isAbsolute = false :=
    isAbsolute_ofNames target.namesOfPage_ne_nil areNames
  rcases components_parent_page source with ⟨directory, isParent, relative, components, plain⟩
  rcases difference_eq target.page.components directory.components plain with
    ⟨common, rest, above, whole, wholeDirectory, longest, result⟩
  rw [components] at wholeDirectory longest
  have split := whole
  rw [components_page] at split
  rcases List.map_eq_append_iff.mp split with ⟨shared, names, named, _, rfl⟩
  have listed : ∀ name ∈ names, name ∈ target.namesOfPage := by
    intro name member
    rw [named]
    exact List.mem_append_right _ member
  refine ⟨common, above, names, wholeDirectory, whole, listed, longest, ?_⟩
  have plainResult : ∀ part ∈ List.replicate above.length Component.up ++ names.map .name,
      part.IsPlain := by
    intro part member
    rcases List.mem_append.mp member with isUp | isName
    · cases List.eq_of_mem_replicate isUp
      trivial
    · rcases List.mem_map.mp isName with ⟨name, inNames, rfl⟩
      exact areNames name (listed name inNames)
  unfold linkTo relativeTo?
  simp only [isParent, Option.getD_some, relativeTarget, relative, if_true, result, Option.map_some,
    toSlash, components_ofComponents plainResult]
  rw [List.map_append, List.map_replicate, upSegment_spelling, List.map_map]
  rfl

/-- Following the link from one page to another ends at the other page, if that has a name in UTF-8. -/
theorem leadsTo_linkTo_page (source target : Path) (areTexts : ∀ name ∈ target.namesOfPage, IsText name) :
    LeadsTo source.page target.page (source.page.linkTo target.page) := by
  rcases linkTo_page source target with ⟨common, above, names, directory, whole, listed, longest, link⟩
  have areNames : ∀ name ∈ names, IsName name := fun name member =>
    target.isName_of_mem_namesOfPage name (listed name member)
  have namesText : ∀ name ∈ names, IsText name := fun name member => areTexts name (listed name member)
  have cut : segments (source.page.linkTo target.page) =
      List.replicate above.length upSegment ++ names.map Utf8.decodeLossy := by
    rw [link]
    exact segments_intercalate (whole_of_mem_linkSegments areNames above.length)
  refine ⟨?_, common, names.map Utf8.decodeLossy, longest, ?_, ?_⟩
  · rw [cut, directory, follow_ups, follow_names common areNames namesText, whole]
  · rw [cut, directory, List.length_append, Nat.add_sub_cancel_left]
  · intro member
    rcases List.mem_map.mp member with ⟨name, member, isUp⟩
    exact decodeLossy_ne_upSegment (areNames name member) (namesText name member) isUp

end Path

namespace Document

/-- The navigation of a page has one link for each document, in order, and each leads from that page to
the page of the document. -/
theorem navigation_leads (documents : List Document) (current : Document)
    (pages : ∀ document ∈ documents, ∃ path : Path, document.page = path.page)
    (texts : ∀ document ∈ documents, ∀ name, .name name ∈ document.page.components → Path.IsText name)
    (listed : current ∈ documents) :
    List.Forall₂
      (fun document link => link.label = document.label ∧
        Path.LeadsTo current.page document.page link.href)
      documents (current.navigation documents) := by
  unfold navigation
  rw [List.forall₂_map_right_iff, List.forall₂_same]
  intro document member
  refine ⟨rfl, ?_⟩
  rcases pages current listed with ⟨source, isSource⟩
  rcases pages document member with ⟨target, isTarget⟩
  have areTexts : ∀ name ∈ target.namesOfPage, Path.IsText name := by
    intro name isName
    apply texts document member
    rw [isTarget, Path.components_page]
    exact List.mem_map_of_mem isName
  rw [isSource, isTarget]
  exact Path.leadsTo_linkTo_page source target areTexts

/-- Three files, of which the second lies below a directory with the name of the first one's page. -/
def inDepth : List Document :=
  ["a", "a.html/b", "d/é"].map fun name => .make (.ofText name.toList) (.ofText name.toList)

/-- From the second page the first is its own directory, so that this link is empty. -/
theorem navigation_leads_in_depth :
    (∀ document ∈ inDepth, ∃ path : Path, document.page = path.page) ∧
      (∀ document ∈ inDepth, ∀ name, .name name ∈ document.page.components → Path.IsText name) ∧
      ∃ current ∈ inDepth,
        (current.navigation inDepth).map Html.PageLink.href =
          ["".toList, "b.html".toList, "../d/é.html".toList] ∧
        List.Forall₂
          (fun document link => link.label = document.label ∧
            Path.LeadsTo current.page document.page link.href)
          inDepth (current.navigation inDepth) := by
  have pages : ∀ document ∈ inDepth, ∃ path : Path, document.page = path.page := by
    intro document member
    rcases List.mem_map.mp member with ⟨name, _, rfl⟩
    exact ⟨_, rfl⟩
  have readBack : ∀ document ∈ inDepth, ∀ part ∈ document.page.components,
      Utf8.encode (Utf8.decodeLossy part.spelling) = part.spelling := by
    decide +kernel
  have texts : ∀ document ∈ inDepth, ∀ name, .name name ∈ document.page.components →
      Path.IsText name := by
    intro document member name inside
    exact ⟨Utf8.decodeLossy name, readBack document member _ inside⟩
  have listed : .make (.ofText "a.html/b".toList) (.ofText "a.html/b".toList) ∈ inDepth := by
    decide +kernel
  exact ⟨pages, texts, _, listed, by decide +kernel, navigation_leads inDepth _ pages texts listed⟩

end Document

end Marginalia
