import Mathlib.Data.List.Infix
import Mathlib.Data.Nat.Digits.Lemmas
import Marginalia.Html.Page
import Marginalia.Proofs.Text.Occurrences

/-!
# What source text can do to a page

The characters that begin and end tags and attribute values are the *markup* of a page.  On a page whose
prose is left for the browser, everything that comes from outside is escaped: the name, the stylesheet,
the labels and addresses of links, the extension, and the prose and code of the sections.  The markup is
then that of an *outline*, a page with the same number of links and sections and no text in them.

Escaping writes references, and the fixed text has three of its own.  No ampersand of a page stands for
anything else.  A text is `Escaped` if it has no markup and no ampersands but those of the references that
escaping writes.

What opens a row and the link in it stands in rows only, and only where it is written: not in escaped text,
since it begins with markup, and not across the places where escaped text meets fixed text.  `Plain` says of a
text that its ampersands begin references and that it opens nothing of the kind.

Nothing of this holds when prose is converted while the page is written, since Markdown is made of markup.
-/

namespace Marginalia.Html

/-! ## Markup and references -/

/-- A character that can begin or end a tag or an attribute value. -/
def isMarkup (c : Char) : Bool :=
  "<>\"'".toList.contains c

/-- The markup of a text, in order. -/
def markup (text : Text) : Text :=
  text.filter isMarkup

/-- The references that a page may contain. -/
def references : List Text :=
  ["&amp;", "&lt;", "&gt;", "&quot;", "&#39;", "&nbsp;", "&hellip;", "&#182;"].map String.toList

/-- Every ampersand of the text begins a reference. -/
def Referenced (text : Text) : Prop :=
  ∀ rest ∈ text.tails, rest.head? = some '&' → ∃ reference ∈ references, reference <+: rest

instance (text : Text) : Decidable (Referenced text) :=
  inferInstanceAs (Decidable (∀ rest ∈ text.tails, _ → ∃ reference ∈ references, reference <+: rest))

theorem markup_append (first second : Text) : markup (first ++ second) = markup first ++ markup second :=
  List.filter_append first second

theorem referenced_nil : Referenced [] := by
  decide

theorem referenced_cons {c : Char} {rest : Text} :
    Referenced (c :: rest) ↔
      (c = '&' → ∃ reference ∈ references, reference <+: c :: rest) ∧ Referenced rest := by
  simp [Referenced]

theorem Referenced.append {first second : Text} (firstReferenced : Referenced first)
    (secondReferenced : Referenced second) : Referenced (first ++ second) := by
  induction first with
  | nil => exact secondReferenced
  | cons c rest ih =>
    rcases referenced_cons.mp firstReferenced with ⟨begins, restReferenced⟩
    refine referenced_cons.mpr ⟨fun isAmpersand => ?_, ih restReferenced⟩
    rcases begins isAmpersand with ⟨reference, member, isPrefix⟩
    exact ⟨reference, member, isPrefix.trans (List.prefix_append (c :: rest) second)⟩

theorem Referenced.of_not_mem {text : Text} (absent : '&' ∉ text) : Referenced text := by
  intro rest member begins
  have inside : '&' ∈ rest := List.mem_of_mem_head? begins
  exact absurd ((List.mem_tails rest text).mp member |>.subset inside) absent

theorem Referenced.flatMap {α : Type} {write : α → Text} {values : List α}
    (each : ∀ value ∈ values, Referenced (write value)) : Referenced (values.flatMap write) := by
  induction values with
  | nil => exact referenced_nil
  | cons value rest ih =>
    rw [List.flatMap_cons]
    exact (each value List.mem_cons_self).append
      (ih fun other member => each other (List.mem_cons_of_mem value member))

/-! ## Escaped text -/

/-- A character that is not written into HTML as it is. -/
def isReserved (c : Char) : Bool :=
  c == '&' || isMarkup c

/-- The references that reserved characters are written as. -/
def reservedReferences : List Text :=
  ["&amp;", "&lt;", "&gt;", "&quot;", "&#39;"].map String.toList

/-- The texts that escaping writes, described without it: they have no markup, and every ampersand begins the
reference of a reserved character. -/
@[mk_iff]
structure Escaped (text : Text) : Prop where
  noMarkup : markup text = []
  referenced : ∀ rest ∈ text.tails, rest.head? = some '&' →
    ∃ reference ∈ reservedReferences, reference <+: rest

instance (text : Text) : Decidable (Escaped text) :=
  decidable_of_iff _ (escaped_iff text).symm

/-- A character is written as a reference if it is reserved, and as it is otherwise. -/
theorem escapeChar_cases (c : Char) :
    isReserved c = true ∧ escapeChar c ∈ reservedReferences ∨ isReserved c = false ∧ escapeChar c = [c] := by
  unfold escapeChar
  split
  case h_6 notAmpersand notLess notGreater notQuote notApostrophe =>
    have notListed : c ∉ ['&', '<', '>', '"', '\''] := by
      intro listed
      simp only [List.mem_cons, List.not_mem_nil, or_false] at listed
      rcases listed with rfl | rfl | rfl | rfl | rfl
      exacts [notAmpersand rfl, notLess rfl, notGreater rfl, notQuote rfl, notApostrophe rfl]
    exact .inr ⟨by simpa [isReserved, isMarkup] using notListed, rfl⟩
  all_goals
    rename_i code
    rw [← Char.ofNat_toNat c, code]
    exact .inl (by decide)

theorem escaped_cons {c : Char} {rest : Text} :
    Escaped (c :: rest) ↔ isMarkup c = false ∧
      (c = '&' → ∃ reference ∈ reservedReferences, reference <+: c :: rest) ∧ Escaped rest := by
  simp [escaped_iff, markup, and_assoc, and_left_comm]

theorem escaped_append_of_unreserved {text : Text} (unreserved : ∀ c ∈ text, isReserved c = false)
    (rest : Text) : Escaped (text ++ rest) ↔ Escaped rest := by
  induction text with
  | nil => rfl
  | cons c others ih =>
    rcases List.forall_mem_cons.mp unreserved with ⟨here, later⟩
    have free : c ≠ '&' ∧ isMarkup c = false := by simpa [isReserved] using here
    rw [List.cons_append, escaped_cons, ih later]
    constructor
    · exact fun ⟨_, _, escaped⟩ => escaped
    · exact fun escaped => ⟨free.2, fun isAmpersand => absurd isAmpersand free.1, escaped⟩

/-- The ampersand of a reference is its only reserved character. -/
theorem exists_name_of_mem_reservedReferences {reference : Text} (member : reference ∈ reservedReferences) :
    ∃ name, reference = '&' :: name ∧ ∀ c ∈ name, isReserved c = false := by
  have each : ∀ reference ∈ reservedReferences,
      reference.head? = some '&' ∧ reference.tail.all (fun c => !isReserved c) = true := by
    decide
  rcases each reference member with ⟨begins, unreserved⟩
  exact ⟨reference.tail, List.eq_cons_of_mem_head? begins, by simpa using unreserved⟩

theorem escaped_reference_append {reference : Text} (member : reference ∈ reservedReferences) (rest : Text) :
    Escaped (reference ++ rest) ↔ Escaped rest := by
  rcases exists_name_of_mem_reservedReferences member with ⟨name, isCons, unreserved⟩
  have begins : reference <+: '&' :: (name ++ rest) := ⟨rest, by rw [isCons, List.cons_append]⟩
  rw [isCons, List.cons_append, escaped_cons, escaped_append_of_unreserved unreserved]
  constructor
  · exact fun ⟨_, _, escaped⟩ => escaped
  · exact fun escaped => ⟨by decide, fun _ => ⟨reference, member, begins⟩, escaped⟩

/-- Writing one more character in front decides nothing about whether a text is escaped. -/
theorem escaped_escapeChar_append (c : Char) (rest : Text) :
    Escaped (escapeChar c ++ rest) ↔ Escaped rest := by
  rcases escapeChar_cases c with ⟨_, isReference⟩ | ⟨unreserved, asItIs⟩
  · exact escaped_reference_append isReference rest
  · rw [asItIs]
    exact escaped_append_of_unreserved (List.forall_mem_singleton.mpr unreserved) rest

theorem escaped_escape (text : Text) : Escaped (escape text) := by
  induction text with
  | nil => decide
  | cons c rest ih =>
    rw [escape, List.flatMap_cons, escaped_escapeChar_append]
    exact ih

/-- Escaped text can end neither a tag nor an attribute value. -/
theorem markup_escape (text : Text) : markup (escape text) = [] :=
  (escaped_escape text).noMarkup

theorem referenced_escape (text : Text) : Referenced (escape text) := by
  have among : ∀ reference ∈ reservedReferences, reference ∈ references := by decide
  intro rest member begins
  rcases (escaped_escape text).referenced rest member begins with ⟨reference, listed, isPrefix⟩
  exact ⟨reference, among reference listed, isPrefix⟩

/-! ## Plain text -/

/-- What stands before the id of a row. -/
def rowOpening : Text := "<tr id=\"".toList

/-- What stands before the id that the sign in a row links to. -/
def pilcrowOpening : Text := "<a class=\"pilcrow\" href=\"#".toList

/-- A text that may stand outside of the openings of rows: its ampersands begin references, and nothing in it
opens a row or links to one, whatever follows. -/
structure Plain (text : Text) : Prop where
  referenced : Referenced text
  opensNoRow : Text.Clear rowOpening text
  opensNoLink : Text.Clear pilcrowOpening text

/-- The openings are written out here, since evaluating a literal would decode its bytes. -/
theorem plain_iff (text : Text) :
    Plain text ↔ Referenced text ∧ Text.Clear ['<', 't', 'r', ' ', 'i', 'd', '=', '"'] text ∧
      Text.Clear ['<', 'a', ' ', 'c', 'l', 'a', 's', 's', '=', '"', 'p', 'i', 'l', 'c', 'r', 'o', 'w', '"', ' ',
        'h', 'r', 'e', 'f', '=', '"', '#'] text := by
  have row : rowOpening = ['<', 't', 'r', ' ', 'i', 'd', '=', '"'] := String.toList_ofList
  have link : pilcrowOpening = ['<', 'a', ' ', 'c', 'l', 'a', 's', 's', '=', '"', 'p', 'i', 'l', 'c', 'r', 'o',
      'w', '"', ' ', 'h', 'r', 'e', 'f', '=', '"', '#'] := String.toList_ofList
  rw [← row, ← link]
  exact ⟨fun plain => ⟨plain.referenced, plain.opensNoRow, plain.opensNoLink⟩,
    fun ⟨referenced, opensNoRow, opensNoLink⟩ => ⟨referenced, opensNoRow, opensNoLink⟩⟩

instance (text : Text) : Decidable (Plain text) :=
  decidable_of_iff _ (plain_iff text).symm

theorem Plain.append {first second : Text} (firstPlain : Plain first) (secondPlain : Plain second) :
    Plain (first ++ second) where
  referenced := firstPlain.referenced.append secondPlain.referenced
  opensNoRow := firstPlain.opensNoRow.append secondPlain.opensNoRow
  opensNoLink := firstPlain.opensNoLink.append secondPlain.opensNoLink

theorem Plain.of_not_mem {text : Text} (noAmpersand : '&' ∉ text) (noBracket : '<' ∉ text) : Plain text where
  referenced := .of_not_mem noAmpersand
  opensNoRow := .of_not_mem rfl noBracket
  opensNoLink := .of_not_mem rfl noBracket

theorem plain_escape (text : Text) : Plain (escape text) := by
  have absent : '<' ∉ escape text := fun member =>
    List.filter_eq_nil_iff.mp (markup_escape text) '<' member (by decide)
  exact ⟨referenced_escape text, .of_not_mem rfl absent, .of_not_mem rfl absent⟩

/-- A line with one escaped text between fixed texts. -/
theorem plain_around {before after : Text} (beforePlain : Plain before) (text : Text)
    (afterPlain : Plain after) : Plain (before ++ escape text ++ after) :=
  (beforePlain.append (plain_escape text)).append afterPlain

/-! ## Pages whose prose the browser converts -/

/-- What a page is made from when its prose is left for the browser to convert. -/
structure ClientPage where
  name : Text
  stylesheet : Text
  navigation : List PageLink
  extension : Text
  sections : List Section
  deriving DecidableEq, Repr

namespace ClientPage

/-- The page, with every section in its row. -/
def page (source : ClientPage) : Page where
  name := source.name
  stylesheet := source.stylesheet
  navigation := source.navigation
  rows := source.sections.map (Row.ofSection .client source.extension)

/-- A page of the given numbers of links and sections with no text in them. -/
def outline (links sections : Nat) : ClientPage where
  name := []
  stylesheet := []
  navigation := List.replicate links ⟨[], []⟩
  extension := []
  sections := List.replicate sections ⟨[], []⟩

end ClientPage

namespace Page

/-! ## The markup of a page -/

theorem markup_html (page : Page) : markup page.html = page.lines.flatMap markup := by
  unfold html
  rw [markup, List.filter_flatMap]
  have endsPlain (line : Text) : (line ++ ['\n']).filter isMarkup = markup line := by
    have feed : ['\n'].filter isMarkup = [] := by decide
    rw [List.filter_append, feed, List.append_nil, markup]
  simp only [endsPlain]

theorem markup_head (first second : Page) : first.head.flatMap markup = second.head.flatMap markup := by
  unfold head
  simp only [List.flatMap_append, List.flatMap_cons, List.flatMap_nil, markup_append, markup_escape]

theorem markup_navigationLink (first second : PageLink) :
    markup (navigationLink first) = markup (navigationLink second) := by
  unfold navigationLink
  simp only [markup_append, markup_escape]

theorem markup_navigationLines (blank : PageLink) (links : List PageLink) :
    (navigationLines links).flatMap markup =
      (navigationLines (List.replicate links.length blank)).flatMap markup := by
  have listed : (links.map navigationLink).flatMap markup =
      ((List.replicate links.length blank).map navigationLink).flatMap markup := by
    induction links with
    | nil => rfl
    | cons link rest ih =>
      rw [List.length_cons, List.replicate_succ, List.map_cons, List.map_cons, List.flatMap_cons,
        List.flatMap_cons, ih, markup_navigationLink link blank]
  unfold navigationLines
  rw [List.length_replicate]
  split
  · rfl
  · simp only [List.flatMap_append, listed]

/-- A page with fewer than two links shows none. -/
theorem navigationLines_of_short {links : List PageLink} (short : links.length < 2) :
    navigationLines links = [] :=
  if_pos short

theorem markup_rowLines (index : Nat) (extension other : Text) (part blank : Section) :
    (rowLines index (.ofSection .client extension part)).flatMap markup =
      (rowLines index (.ofSection .client other blank)).flatMap markup := by
  unfold rowLines Row.ofSection proseCell codeCell
  simp only [List.flatMap_cons, List.flatMap_nil, markup_append, markup_escape]

/-- Rows have the markup of as many blank rows, since the index runs alike on both sides and the anchors with
it. -/
theorem markup_rowsFrom (index : Nat) (extension other : Text) (blank : Section)
    (sections : List Section) :
    (rowsFrom index (sections.map (.ofSection .client extension))).flatMap markup =
      (rowsFrom index ((List.replicate sections.length blank).map
        (.ofSection .client other))).flatMap markup := by
  induction sections generalizing index with
  | nil => rfl
  | cons part rest ih =>
    rw [List.length_cons, List.replicate_succ, List.map_cons, List.map_cons, rowsFrom, rowsFrom,
      List.flatMap_append, List.flatMap_append, ih, markup_rowLines index extension other part blank]

theorem markup_tableLines {first second : Page}
    (rows : (rowsFrom 0 first.rows).flatMap markup = (rowsFrom 0 second.rows).flatMap markup) :
    first.tableLines.flatMap markup = second.tableLines.flatMap markup := by
  unfold tableLines
  simp only [List.flatMap_append, List.flatMap_cons, List.flatMap_nil, markup_append, markup_escape,
    rows]

/-! ## What is plain on a page

The fixed text is checked by evaluation.  A literal is first rewritten to the characters that it is written
with, since evaluating it would decode its bytes. -/

theorem plain_head (page : Page) : ∀ line ∈ page.head, Plain line := by
  unfold head themeStylesheets
  simp only [List.map_cons, List.map_nil, List.forall_mem_append, List.forall_mem_cons]
  repeat rw [String.toList_ofList]
  refine ⟨⟨⟨by decide, ?title, ?stylesheet, by decide⟩, by decide⟩, by decide⟩
  case title => exact plain_around (by decide) page.name (by decide)
  case stylesheet => exact plain_around (by decide) page.stylesheet (by decide)

theorem plain_navigationLink (link : PageLink) : Plain (navigationLink link) := by
  unfold navigationLink
  repeat rw [String.toList_ofList]
  refine ((plain_around ?_ link.href ?_).append (plain_escape link.label)).append ?_
  all_goals decide

theorem plain_navigationLines (links : List PageLink) : ∀ line ∈ navigationLines links, Plain line := by
  unfold navigationLines
  split
  · exact fun line member => absurd member List.not_mem_nil
  · simp only [List.map_cons, List.map_nil, List.forall_mem_append, List.forall_mem_map]
    repeat rw [String.toList_ofList]
    exact ⟨⟨by decide, fun link _ => plain_navigationLink link⟩, by decide⟩

theorem plain_anchor (index : Nat) : Plain (anchor index) := by
  have onlyDigits (c : Char) (member : c ∈ Nat.toDigits 10 index) : c.isDigit = true :=
    Nat.isDigit_of_mem_toDigits (by decide) (by decide) member
  unfold anchor
  rw [String.toList_ofList]
  refine Plain.append (by decide) (.of_not_mem (fun member => ?_) fun member => ?_)
  · exact absurd (onlyDigits '&' member) (by decide)
  · exact absurd (onlyDigits '<' member) (by decide)

theorem plain_codeCell (extension code : Text) : Plain (codeCell extension code) := by
  unfold codeCell
  repeat rw [String.toList_ofList]
  refine ((plain_around ?_ (brush extension) ?_).append (plain_escape code)).append ?_
  all_goals decide

theorem plain_proseCell (comment : Text) : Plain (proseCell .client comment) := by
  unfold proseCell
  repeat rw [String.toList_ofList]
  exact plain_around (by decide) comment (by decide)

/-- A character that the brushes' names and addresses do not have is not in the lines made of them. -/
theorem not_mem_brushLines {c : Char} (notSign : c ∉ ['"', ' ', ',']) (notInBase : c ∉ brushBase.toList)
    {entries : List (String × String)}
    (absent : ∀ entry ∈ entries, c ∉ entry.1.toList ∧ c ∉ entry.2.toList) :
    ∀ line ∈ brushLines entries, c ∉ line.toList := by
  fun_induction brushLines entries with
  | case1 => simp
  | case2 names script => simp_all
  | case3 names script rest _ ih => simp_all

theorem plain_brushLines : ∀ line ∈ brushLines brushes, Plain line.toList := by
  have base : '&' ∉ brushBase.toList ∧ '<' ∉ brushBase.toList := by
    unfold brushBase
    rw [String.toList_ofList]
    decide
  have entries : ∀ entry ∈ brushes, ('&' ∉ entry.1.toList ∧ '&' ∉ entry.2.toList) ∧
      '<' ∉ entry.1.toList ∧ '<' ∉ entry.2.toList := by
    unfold brushes
    simp only [List.forall_mem_cons]
    repeat rw [String.toList_ofList]
    and_intros
    all_goals decide
  intro line member
  exact .of_not_mem
    (not_mem_brushLines (by decide) base.1 (fun entry isEntry => (entries entry isEntry).1) line member)
    (not_mem_brushLines (by decide) base.2 (fun entry isEntry => (entries entry isEntry).2) line member)

theorem plain_scriptLines : ∀ line ∈ scriptLines.map String.toList, Plain line := by
  unfold scriptLines proseScripts highlighterScripts
  simp only [List.map_append, List.map_cons, List.map_nil, String.toList_append, List.forall_mem_append]
  repeat rw [String.toList_ofList]
  refine ⟨⟨⟨⟨⟨by decide, by decide⟩, by decide⟩, by decide⟩, ?brushes⟩, by decide⟩
  case brushes =>
    simp only [List.forall_mem_map]
    exact plain_brushLines

/-- Everything around the rows of a page is plain. -/
theorem exists_plain_around_rows (page : Page) :
    ∃ before after, (∀ line ∈ before, Plain line) ∧ (∀ line ∈ after, Plain line) ∧
      page.lines = before ++ (rowsFrom 0 page.rows ++ after) := by
  refine ⟨page.head ++
      (["<body>", "<div id=\"container\">", "<div id=\"background\"></div>"].map String.toList ++
      (navigationLines page.navigation ++
        (["<table cellspacing=\"0\" cellpadding=\"0\">", "<thead>", "<tr>"].map String.toList ++
          (["<th class=\"docs\"><h1>".toList ++ escape page.name ++ "</h1></th>".toList] ++
            ["<th class=\"code\"></th>", "</tr>", "</thead>", "<tbody>"].map String.toList)))),
    ["</tbody>", "</table>"].map String.toList ++ (fixed "</div>" ++
      (scriptLines.map String.toList ++ ["</body>", "</html>"].map String.toList)), ?_, ?_, ?_⟩
  · simp only [List.forall_mem_append, List.forall_mem_singleton, List.map_cons, List.map_nil]
    repeat rw [String.toList_ofList]
    exact ⟨page.plain_head, by decide, plain_navigationLines page.navigation, by decide,
      plain_around (by decide) page.name (by decide), by decide⟩
  · unfold fixed
    simp only [List.forall_mem_append, List.forall_mem_singleton, List.map_cons, List.map_nil]
    repeat rw [String.toList_ofList]
    exact ⟨by decide, by decide, plain_scriptLines, by decide⟩
  · unfold lines tableLines
    simp only [List.append_assoc]

/-! ## The references of a page -/

theorem referenced_html {page : Page} (each : ∀ line ∈ page.lines, Referenced line) :
    Referenced page.html := by
  apply Referenced.flatMap
  intro line member
  exact (each line member).append (by decide)

/-- The lines of a row are not all plain. -/
theorem referenced_rowLines (index : Nat) (extension : Text) (part : Section) :
    ∀ line ∈ rowLines index (.ofSection .client extension part), Referenced line := by
  unfold rowLines
  simp only [List.forall_mem_cons]
  repeat rw [String.toList_ofList]
  refine ⟨?row, by decide, by decide, ?pilcrow, by decide, (plain_proseCell part.comment).referenced,
    by decide, by decide, by decide, (plain_codeCell extension part.code).referenced, by decide⟩
  case row | pilcrow =>
    exact (Referenced.append (by decide) (plain_anchor index).referenced).append (by decide)

theorem referenced_rowsFrom (index : Nat) (extension : Text) (sections : List Section) :
    ∀ line ∈ rowsFrom index (sections.map (.ofSection .client extension)), Referenced line := by
  induction sections generalizing index with
  | nil => exact fun line member => absurd member List.not_mem_nil
  | cons part rest ih =>
    rw [List.map_cons, rowsFrom, List.forall_mem_append]
    exact ⟨referenced_rowLines index extension part, ih (index + 1)⟩

end Page

namespace ClientPage

/-- Part by part, a page has the markup of its outline. -/
theorem markup_html_eq_outline (source : ClientPage) :
    markup source.page.html =
      markup (outline source.navigation.length source.sections.length).page.html := by
  have head := Page.markup_head source.page
    (outline source.navigation.length source.sections.length).page
  have navigation : (Page.navigationLines source.page.navigation).flatMap markup =
      (Page.navigationLines (outline source.navigation.length
        source.sections.length).page.navigation).flatMap markup :=
    Page.markup_navigationLines ⟨[], []⟩ source.navigation
  have table : source.page.tableLines.flatMap markup =
      (outline source.navigation.length source.sections.length).page.tableLines.flatMap markup :=
    Page.markup_tableLines (Page.markup_rowsFrom 0 source.extension [] ⟨[], []⟩ source.sections)
  rw [Page.markup_html, Page.markup_html]
  unfold Page.lines
  simp only [List.flatMap_append, head, navigation, table]

theorem html_outline_of_short {links : Nat} (short : links < 2) (sections : Nat) :
    (outline links sections).page.html = (outline 0 sections).page.html := by
  have unshown : Page.navigationLines (outline links sections).page.navigation = [] :=
    Page.navigationLines_of_short (by simpa [page, outline] using short)
  unfold Page.html Page.lines
  rw [unshown]
  rfl

theorem referenced_page (source : ClientPage) : Referenced source.page.html := by
  apply Page.referenced_html
  rcases source.page.exists_plain_around_rows with ⟨before, after, beforePlain, afterPlain, cut⟩
  rw [cut, List.forall_mem_append, List.forall_mem_append]
  exact ⟨fun line member => (beforePlain line member).referenced,
    Page.referenced_rowsFrom 0 source.extension source.sections,
    fun line member => (afterPlain line member).referenced⟩

/-- Source text cannot change the markup of a page: that depends on the numbers of sections and of
shown links only, and no ampersand begins anything but a reference. -/
theorem markup_independent_of_text (first second : ClientPage)
    (sections : first.sections.length = second.sections.length)
    (links : first.navigation.length = second.navigation.length ∨
      first.navigation.length < 2 ∧ second.navigation.length < 2) :
    markup first.page.html = markup second.page.html ∧
      Referenced first.page.html ∧ Referenced second.page.html := by
  refine ⟨?_, referenced_page first, referenced_page second⟩
  rw [markup_html_eq_outline first, markup_html_eq_outline second, sections]
  rcases links with same | ⟨firstShort, secondShort⟩
  · rw [same]
  · rw [html_outline_of_short firstShort, html_outline_of_short secondShort]

/-- A page whose every text tries to close what it stands in. -/
def hostile : ClientPage where
  name := "</title><script>alert('&')</script>".toList
  stylesheet := "\"><style>".toList
  navigation := [⟨"</a>".toList, "\" onclick='x".toList⟩]
  extension := "HTML\">".toList
  sections := [⟨"</div></td>".toList, "&amp;</pre> \"a\" && b".toList⟩]

/-- It has the markup of a page without text, although one of them has a link and the other has none. -/
theorem markup_independent_of_text_hostile :
    hostile.sections.length = (outline 0 1).sections.length ∧
      (hostile.navigation.length < 2 ∧ (outline 0 1).navigation.length < 2) ∧
      markup hostile.page.html = markup (outline 0 1).page.html ∧
      Referenced hostile.page.html ∧ Referenced (outline 0 1).page.html := by
  have sections : hostile.sections.length = (outline 0 1).sections.length := rfl
  have short : hostile.navigation.length < 2 ∧ (outline 0 1).navigation.length < 2 := by decide
  exact ⟨sections, short, markup_independent_of_text hostile (outline 0 1) sections (.inr short)⟩

end ClientPage

end Marginalia.Html
