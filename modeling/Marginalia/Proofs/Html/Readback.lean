import Marginalia.Proofs.Html.Markup
import Marginalia.Proofs.Html.Unescape
import Marginalia.Proofs.Text.Lines

/-!
# What can be read off a page

A page whose prose is left for the browser can be read back: it determines the name, the stylesheet, the
shown links, the sections and the brush that it was made from.  Texts of any length stand between fixed
text, and there are any number of links and rows, so two things have to be seen.  An escaped text ends at
the first markup after it, because it has none of its own.  And at each point of a list the next two
characters tell whether there is another item or the list is closed.

Both are properties of what is written that do not depend on what comes after it.  `Determines` states such
a property, and pages are taken apart in the way in which they are put together.
-/

namespace Marginalia.Html

open Text (unlines unlines_nil unlines_cons unlines_append)

/-! ## Escaped text and what follows it -/

/-- The text begins with markup, which ends an escaped text before it. -/
def Delimited (text : Text) : Prop :=
  text.head?.any isMarkup = true

instance (text : Text) : Decidable (Delimited text) :=
  inferInstanceAs (Decidable (_ = true))

theorem Delimited.append {first : Text} (delimited : Delimited first) (second : Text) :
    Delimited (first ++ second) := by
  cases first with
  | nil => cases delimited
  | cons c rest => exact delimited

/-- What follows an escaped text begins at the first markup. -/
theorem dropWhile_escape_append (text : Text) {rest : Text} (delimited : Delimited rest) :
    (escape text ++ rest).dropWhile (fun c => !isMarkup c) = rest := by
  have plain : ∀ c ∈ escape text, (!isMarkup c) = true := by
    intro c member
    have notMarkup := List.filter_eq_nil_iff.mp (markup_escape text) c member
    simpa using notMarkup
  rw [List.dropWhile_append_of_pos plain]
  cases rest with
  | nil => cases delimited
  | cons c rest =>
    have isMarkup_c : isMarkup c = true := delimited
    rw [List.dropWhile_cons, isMarkup_c]
    rfl

theorem escape_append_inj {first second rest rest' : Text} (delimited : Delimited rest)
    (delimited' : Delimited rest') (same : escape first ++ rest = escape second ++ rest') :
    first = second ∧ rest = rest' := by
  have sameRest : rest = rest' := by
    rw [← dropWhile_escape_append first delimited, same, dropWhile_escape_append second delimited']
  rw [sameRest] at same
  exact ⟨escape_injective (List.append_cancel_right same), sameRest⟩

/-! ## Writings that determine what they were written for -/

section Determines

variable {α β γ δ : Type}

/-- Whatever follows the text written for a value, it determines what is seen of the value, and where the
text ends. -/
def Determines (write : α → Text) (seen : α → β) : Prop :=
  ∀ first second rest rest', write first ++ rest = write second ++ rest' →
    seen first = seen second ∧ rest = rest'

namespace Determines

variable {write : α → Text} {seen : α → β}

theorem fixed (text : Text) : Determines (fun _ : α => text) (fun _ => ()) := by
  intro first second rest rest' same
  exact ⟨rfl, List.append_cancel_left same⟩

/-- A text that is the same for all values shows nothing of them. -/
theorem fixed_append (text : Text) (others : Determines write seen) :
    Determines (fun value => text ++ write value) seen := by
  intro first second rest rest' same
  rw [List.append_assoc, List.append_assoc] at same
  exact others first second rest rest' (List.append_cancel_left same)

/-- An escaped text is shown if something follows that ends it. -/
theorem escape_append {after : Text} (delimited : Delimited after) (text : α → Text)
    (others : Determines write seen) :
    Determines (fun value => escape (text value) ++ (after ++ write value))
      (fun value => (text value, seen value)) := by
  intro first second rest rest' same
  simp only [List.append_assoc] at same
  rcases escape_append_inj (delimited.append _) (delimited.append _) same with ⟨sameText, same⟩
  rcases others first second rest rest' (List.append_cancel_left same) with ⟨sameSeen, sameRest⟩
  exact ⟨Prod.ext sameText sameSeen, sameRest⟩

theorem append {write' : α → Text} {seen' : α → γ} (first : Determines write seen)
    (second : Determines write' seen') :
    Determines (fun value => write value ++ write' value) (fun value => (seen value, seen' value)) := by
  intro one other rest rest' same
  simp only [List.append_assoc] at same
  rcases first one other _ _ same with ⟨sameSeen, same⟩
  rcases second one other _ _ same with ⟨sameSeen', sameRest⟩
  exact ⟨Prod.ext sameSeen sameSeen', sameRest⟩

/-- Less may be seen. -/
theorem mono {seen' : α → γ} (determines : Determines write seen)
    (less : ∀ first second, seen first = seen second → seen' first = seen' second) :
    Determines write seen' := by
  intro first second rest rest' same
  rcases determines first second rest rest' same with ⟨sameSeen, sameRest⟩
  exact ⟨less first second sameSeen, sameRest⟩

theorem comap (determines : Determines write seen) (part : δ → α) :
    Determines (fun value => write (part value)) (fun value => seen (part value)) :=
  fun first second => determines (part first) (part second)

end Determines

/-- What is written for values one after the other, each with its index. -/
def listed (write : Nat → α → Text) : Nat → List α → Text
  | _, [] => []
  | index, value :: rest => write index value ++ listed write (index + 1) rest

/-- A list ends where the text that closes it stands, if no item can be taken for that text.  Both lists are
read at the same pace: an item on one side has to meet an item on the other. -/
theorem listed_inj {write : Nat → α → Text} {seen : α → β}
    (each : ∀ index, Determines (write index) seen) {closing : Text}
    (apart : ∀ index value rest rest', write index value ++ rest ≠ closing ++ rest') (index : Nat)
    {first second : List α} {rest rest' : Text}
    (same : listed write index first ++ (closing ++ rest) =
      listed write index second ++ (closing ++ rest')) :
    first.map seen = second.map seen ∧ rest = rest' := by
  induction first generalizing index second with
  | nil =>
    cases second with
    | nil => exact ⟨rfl, List.append_cancel_left same⟩
    | cons value others =>
      simp only [listed, List.nil_append, List.append_assoc] at same
      exact absurd same.symm (apart index value _ _)
  | cons value others ih =>
    cases second with
    | nil =>
      simp only [listed, List.nil_append, List.append_assoc] at same
      exact absurd same (apart index value _ _)
    | cons value' others' =>
      simp only [listed, List.append_assoc] at same
      rcases each index value value' _ _ same with ⟨sameSeen, same⟩
      rcases ih (index + 1) same with ⟨sameOthers, sameRest⟩
      exact ⟨by rw [List.map_cons, List.map_cons, sameSeen, sameOthers], sameRest⟩

end Determines

/-- Two tags are told apart by the character after the angle bracket. -/
theorem tag_ne {c d : Char} (differ : c ≠ d) {first second : Text} (begins : ['<', c] <+: first)
    (begins' : ['<', d] <+: second) (rest rest' : Text) : first ++ rest ≠ second ++ rest' := by
  rcases begins with ⟨first, rfl⟩
  rcases begins' with ⟨second, rfl⟩
  intro same
  simp only [List.cons_append, List.cons.injEq, true_and] at same
  exact differ same.1

/-! ## The parts of a page -/

namespace Page

theorem determines_head :
    Determines (fun page : Page => unlines page.head) (fun page => (page.name, page.stylesheet)) := by
  unfold head
  simp only [unlines_append, unlines_cons, unlines_nil, List.append_assoc]
  repeat rw [String.toList_ofList]
  refine Determines.mono (?texts : Determines _ fun page : Page =>
    (page.name, page.stylesheet, ())) ?less
  case texts =>
    repeat apply Determines.fixed_append
    apply Determines.escape_append (by decide) Page.name
    repeat apply Determines.fixed_append
    apply Determines.escape_append (by decide) Page.stylesheet
    exact .fixed _
  case less =>
    intro first second same
    simpa using same

/-! ### Links -/

theorem determines_navigationLink :
    Determines (fun link : PageLink => navigationLink link ++ ['\n']) id := by
  unfold navigationLink
  simp only [List.append_assoc]
  repeat rw [String.toList_ofList]
  refine Determines.mono (?texts : Determines _ fun link : PageLink => (link.href, link.label, ())) ?less
  case texts =>
    apply Determines.fixed_append
    apply Determines.escape_append (by decide) PageLink.href
    apply Determines.escape_append (by decide) PageLink.label
    exact .fixed _
  case less =>
    rintro ⟨label, href⟩ ⟨label', href'⟩ same
    cases same
    rfl

theorem begins_navigationLink (link : PageLink) : ['<', 'a'] <+: navigationLink link ++ ['\n'] := by
  unfold navigationLink
  rw [String.toList_ofList]
  exact ⟨_, rfl⟩

theorem unlines_navigationLinks (index : Nat) (links : List PageLink) :
    unlines (links.map navigationLink) =
      listed (fun _ link => navigationLink link ++ ['\n']) index links := by
  induction links generalizing index with
  | nil => rfl
  | cons link rest ih =>
    rw [List.map_cons, unlines_cons, listed, ih (index + 1), List.append_assoc]

/-- The links that a page shows: none if there is no other page to go to. -/
def shownLinks (links : List PageLink) : List PageLink :=
  if links.length < 2 then [] else links

theorem eq_or_short_of_shownLinks_eq {first second : List PageLink}
    (same : shownLinks first = shownLinks second) :
    first = second ∨ first.length < 2 ∧ second.length < 2 := by
  unfold shownLinks at same
  split_ifs at same with short short' short'
  · exact Or.inr ⟨short, short'⟩
  · rw [← same] at short'
    exact absurd (Nat.zero_lt_succ 1) short'
  · rw [same] at short
    exact absurd (Nat.zero_lt_succ 1) short
  · exact Or.inl same

theorem begins_navigationLines {links : List PageLink} (long : ¬ links.length < 2) :
    ['<', 'd'] <+: unlines (navigationLines links) := by
  unfold navigationLines
  rw [if_neg long, List.map_cons, List.cons_append, List.cons_append, unlines_cons,
    String.toList_ofList]
  exact ⟨_, rfl⟩

/-- Links that are shown are read up to the tag that closes them. -/
theorem navigationLines_inj {first second : List PageLink} (long : ¬ first.length < 2)
    (long' : ¬ second.length < 2) {rest rest' : Text}
    (same : unlines (navigationLines first) ++ rest = unlines (navigationLines second) ++ rest') :
    first = second ∧ rest = rest' := by
  unfold navigationLines at same
  rw [if_neg long, if_neg long'] at same
  simp only [unlines_append, List.append_assoc, unlines_navigationLinks 0] at same
  have apart : ∀ (_ : Nat) (link : PageLink) (rest rest' : Text),
      navigationLink link ++ ['\n'] ++ rest ≠
        unlines (["</div>", "</div>", "</div>"].map String.toList) ++ rest' := by
    intro _ link
    refine tag_ne (?differ : 'a' ≠ '/') (begins_navigationLink link) ?closes
    case differ => decide
    case closes =>
      rw [List.map_cons, unlines_cons, String.toList_ofList]
      exact ⟨_, rfl⟩
  rcases listed_inj (fun _ => determines_navigationLink) apart 0 (List.append_cancel_left same) with
    ⟨sameLinks, sameRest⟩
  exact ⟨by simpa using sameLinks, sameRest⟩

/-- That links are shown is seen by the first tag, if a table comes next. -/
theorem shownLinks_eq {first second : List PageLink} {rest rest' : Text}
    (isTable : ['<', 't'] <+: rest) (isTable' : ['<', 't'] <+: rest')
    (same : unlines (navigationLines first) ++ rest = unlines (navigationLines second) ++ rest') :
    shownLinks first = shownLinks second ∧ rest = rest' := by
  have differs (links : List PageLink) (long : ¬ links.length < 2) (table after : Text)
      (isTable : ['<', 't'] <+: table) : unlines (navigationLines links) ++ after ≠ table := by
    have apart := tag_ne (by decide) (begins_navigationLines long) isTable after []
    rwa [List.append_nil] at apart
  unfold shownLinks
  by_cases short : first.length < 2
  · rw [navigationLines_of_short short, unlines_nil, List.nil_append] at same
    by_cases short' : second.length < 2
    · rw [navigationLines_of_short short', unlines_nil, List.nil_append] at same
      exact ⟨by rw [if_pos short, if_pos short'], same⟩
    · exact absurd same.symm (differs second short' rest rest' isTable)
  · by_cases short' : second.length < 2
    · rw [navigationLines_of_short short', unlines_nil, List.nil_append] at same
      exact absurd same (differs first short rest' rest isTable')
    · rcases navigationLines_inj short short' same with ⟨sameLinks, sameRest⟩
      exact ⟨by rw [if_neg short, if_neg short', sameLinks], sameRest⟩

theorem determines_navigationLines_append {α β : Type} {write : α → Text} {seen : α → β}
    (isTable : ∀ value, ['<', 't'] <+: write value) (links : α → List PageLink)
    (others : Determines write seen) :
    Determines (fun value => unlines (navigationLines (links value)) ++ write value)
      (fun value => (shownLinks (links value), seen value)) := by
  intro first second rest rest' same
  simp only [List.append_assoc] at same
  rcases shownLinks_eq ((isTable first).trans (List.prefix_append _ _))
    ((isTable second).trans (List.prefix_append _ _)) same with ⟨sameLinks, same⟩
  rcases others first second rest rest' same with ⟨sameSeen, sameRest⟩
  exact ⟨Prod.ext sameLinks sameSeen, sameRest⟩

/-! ### Rows -/

theorem determines_rowLines (index : Nat) :
    Determines
      (fun row : Text × Section => unlines (rowLines index (.ofSection .client row.1 row.2)))
      (fun row => (brush row.1, row.2)) := by
  unfold rowLines Row.ofSection proseCell codeCell
  simp only [unlines_cons, unlines_nil, List.append_assoc]
  repeat rw [String.toList_ofList]
  refine Determines.mono (?texts : Determines _ fun row : Text × Section =>
    (row.2.comment, brush row.1, row.2.code, ())) ?less
  case texts =>
    repeat apply Determines.fixed_append
    apply Determines.escape_append (by decide) (fun row : Text × Section => row.2.comment)
    repeat apply Determines.fixed_append
    apply Determines.escape_append (by decide) (fun row : Text × Section => brush row.1)
    apply Determines.escape_append (by decide) (fun row : Text × Section => row.2.code)
    exact .fixed _
  case less =>
    rintro ⟨extension, comment, code⟩ ⟨extension', comment', code'⟩ same
    simp_all

theorem begins_rowLines (index : Nat) (row : Row) : ['<', 't'] <+: unlines (rowLines index row) := by
  unfold rowLines
  rw [unlines_cons, String.toList_ofList]
  exact ⟨_, rfl⟩

theorem unlines_rowsFrom (index : Nat) (extension : Text) (sections : List Section) :
    unlines (rowsFrom index (sections.map (.ofSection .client extension))) =
      listed (fun index row => unlines (rowLines index (.ofSection .client row.1 row.2))) index
        (sections.map fun part => (extension, part)) := by
  induction sections generalizing index with
  | nil => rfl
  | cons part rest ih =>
    rw [List.map_cons, List.map_cons, rowsFrom, unlines_append, listed, ih (index + 1)]

end Page

namespace ClientPage

/-- Rows are read up to the tag that closes the table's body. -/
theorem determines_rows_append {write : ClientPage → Text} {β : Type} {seen : ClientPage → β}
    (others : Determines write seen) :
    Determines
      (fun source => unlines (Page.rowsFrom 0 source.page.rows) ++
        (unlines (["</tbody>", "</table>"].map String.toList) ++ write source))
      (fun source =>
        (source.sections.map fun part => (brush source.extension, part), seen source)) := by
  have apart : ∀ (index : Nat) (row : Text × Section) (rest rest' : Text),
      unlines (Page.rowLines index (.ofSection .client row.1 row.2)) ++ rest ≠
        unlines (["</tbody>", "</table>"].map String.toList) ++ rest' := by
    intro index row
    refine tag_ne (?differ : 't' ≠ '/') (Page.begins_rowLines index _) ?closes
    case differ => decide
    case closes =>
      rw [List.map_cons, unlines_cons, String.toList_ofList]
      exact ⟨_, rfl⟩
  intro first second rest rest' same
  simp only [page, Page.unlines_rowsFrom, List.append_assoc] at same
  rcases listed_inj Page.determines_rowLines apart 0 same with ⟨sameRows, same⟩
  rcases others first second rest rest' same with ⟨sameSeen, sameRest⟩
  simp only [List.map_map, Function.comp_def] at sameRows
  exact ⟨Prod.ext sameRows sameSeen, sameRest⟩

/-- What can be read off a page. -/
theorem determines_html :
    Determines (fun source : ClientPage => source.page.html) (fun source =>
      (source.name, source.stylesheet, Page.shownLinks source.navigation,
        source.sections.map fun part => (brush source.extension, part))) := by
  have written (source : ClientPage) : source.page.html = unlines source.page.lines := rfl
  have head : Determines (fun source : ClientPage => unlines source.page.head) fun source =>
      (source.name, source.stylesheet) := Page.determines_head.comap page
  have isTable : ['<', 't'] <+: unlines
      (["<table cellspacing=\"0\" cellpadding=\"0\">", "<thead>", "<tr>"].map String.toList) := by
    rw [List.map_cons, unlines_cons, String.toList_ofList]
    exact ⟨_, rfl⟩
  simp only [written]
  unfold Page.lines Page.tableLines
  simp only [unlines_append, unlines_cons, unlines_nil, List.append_assoc]
  refine Determines.mono (?parts : Determines _ fun source : ClientPage =>
    ((source.name, source.stylesheet), Page.shownLinks source.navigation, source.name,
      source.sections.map (fun part => (brush source.extension, part)), ())) ?less
  case parts =>
    apply head.append
    apply Determines.fixed_append
    apply Page.determines_navigationLines_append
      (fun _ => isTable.trans (List.prefix_append _ _)) ClientPage.navigation
    apply Determines.fixed_append
    apply Determines.fixed_append
    apply Determines.escape_append (by decide) ClientPage.name
    repeat apply Determines.fixed_append
    apply determines_rows_append
    exact .fixed _
  case less =>
    intro first second same
    simp_all

/-- A page determines what it documents: its name, its stylesheet, its sections, the links that it shows,
and the brush by which its code is coloured. -/
theorem eq_of_html_eq (first second : ClientPage) (same : first.page.html = second.page.html) :
    first.name = second.name ∧ first.stylesheet = second.stylesheet ∧
      first.sections = second.sections ∧
      (first.navigation = second.navigation ∨
        first.navigation.length < 2 ∧ second.navigation.length < 2) ∧
      (first.sections ≠ [] → brush first.extension = brush second.extension) := by
  rcases determines_html first second [] [] (congrArg (· ++ []) same) with ⟨seen, _⟩
  simp only [Prod.mk.injEq] at seen
  rcases seen with ⟨sameName, sameStylesheet, sameLinks, sameRows⟩
  have sameSections : first.sections = second.sections := by
    have parts := congrArg (List.map Prod.snd) sameRows
    simpa only [List.map_map, Function.comp_def, List.map_id'] using parts
  refine ⟨sameName, sameStylesheet, sameSections, Page.eq_or_short_of_shownLinks_eq sameLinks, ?_⟩
  intro rows
  rw [← sameSections] at sameRows
  rcases List.exists_mem_of_ne_nil _ rows with ⟨part, member⟩
  have sameRow := List.map_inj_left.mp sameRows part member
  exact congrArg Prod.fst sameRow

/-- The hostile page with its link left out and its extension in lower case. -/
def hostileUnlinked : ClientPage :=
  { hostile with navigation := [], extension := "html\">".toList }

/-- A link that is not shown and the case of the extension are all that these two pages do not tell. -/
theorem eq_of_html_eq_hostile :
    hostile ≠ hostileUnlinked ∧ hostile.page.html = hostileUnlinked.page.html ∧
      hostile.name = hostileUnlinked.name ∧ hostile.stylesheet = hostileUnlinked.stylesheet ∧
      hostile.sections = hostileUnlinked.sections ∧
      (hostile.navigation = hostileUnlinked.navigation ∨
        hostile.navigation.length < 2 ∧ hostileUnlinked.navigation.length < 2) ∧
      (hostile.sections ≠ [] → brush hostile.extension = brush hostileUnlinked.extension) := by
  have differ : hostile ≠ hostileUnlinked := by decide
  have brushes : brush hostile.extension = brush hostileUnlinked.extension := by decide
  have rows : hostile.page.rows = hostileUnlinked.page.rows := by
    unfold page Row.ofSection codeCell
    rw [brushes]
    rfl
  have same : hostile.page.html = hostileUnlinked.page.html := by
    unfold Page.html Page.lines Page.tableLines
    rw [rows]
    rfl
  exact ⟨differ, same, eq_of_html_eq hostile hostileUnlinked same⟩

end ClientPage

end Marginalia.Html
