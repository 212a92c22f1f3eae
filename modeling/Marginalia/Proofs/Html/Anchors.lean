import Marginalia.Proofs.Html.Markup
import Marginalia.Proofs.Text.Lines
import Marginalia.Proofs.Text.Occurrences

/-!
# Anchors of a page

Every row of a page has an id, and in the row stands a sign that links to it.  Both are written with the number
of the row.  On a page whose prose is left for the browser nothing else can be taken for them, since everything
around the rows is plain text, and so is everything in a row but its two openings.  The places of the openings
are then found by going through the rows.

`Numbered` says where the openings stand and what follows them.  Plain text in front moves the places; a row in
front adds one of each kind.
-/

namespace Marginalia.Html

open Text (occurrences Clear unlines unlines_nil unlines_cons unlines_append)

/-- The ids that pages have beside those of rows. -/
def furnitureIds : List Text :=
  ["container", "background", "jump_to", "jump_handle", "jump_wrapper", "jump_page"].map String.toList

/-! ## Numbers -/

theorem anchor_injective : Function.Injective anchor := by
  intro first second same
  have digits : Nat.toDigits 10 first = Nat.toDigits 10 second := List.append_cancel_left same
  calc first = Nat.ofDigitChars 10 (Nat.toDigits 10 first) 0 := Nat.ofDigitChars_ten_toDigits.symm
    _ = Nat.ofDigitChars 10 (Nat.toDigits 10 second) 0 := by rw [digits]
    _ = second := Nat.ofDigitChars_ten_toDigits

/-- An anchor is told from every other id by its first character. -/
theorem nodup_ids (count : Nat) : (furnitureIds ++ (List.range count).map anchor).Nodup := by
  have begins (index : Nat) : (anchor index).head? = some 's' := by
    unfold anchor
    rw [String.toList_ofList]
    rfl
  have others : ∀ id ∈ furnitureIds, id.head? ≠ some 's' := by decide
  refine List.Nodup.append (by decide) (List.nodup_range.map anchor_injective) ?_
  intro id isFurniture isAnchor
  rcases List.mem_map.mp isAnchor with ⟨index, _, rfl⟩
  exact others _ isFurniture (begins index)

theorem rowOpening_ne_nil : rowOpening ≠ [] := by decide

theorem pilcrowOpening_ne_nil : pilcrowOpening ≠ [] := by decide

theorem Plain.unlines {lines : List Text} (each : ∀ line ∈ lines, Plain line) : Plain (unlines lines) := by
  induction lines with
  | nil => decide
  | cons line rest ih =>
    rcases List.forall_mem_cons.mp each with ⟨linePlain, others⟩
    rw [unlines_cons]
    exact linePlain.append (Plain.append (by decide) (ih others))

/-! ## Rows -/

/-- The id of a row with the quote that closes it. -/
def closedAnchor (index : Nat) : Text :=
  anchor index ++ ['"']

theorem plain_closedAnchor (index : Nat) : Plain (closedAnchor index) :=
  (Page.plain_anchor index).append (by decide)

/-- A row up to the link in it. -/
def rowLead (index : Nat) (between : Text) : Text :=
  rowOpening ++ (closedAnchor index ++ between)

/-- A row, with what stands between its openings and after them. -/
def rowText (index : Nat) (between after : Text) : Text :=
  rowLead index between ++ (pilcrowOpening ++ (closedAnchor index ++ after))

theorem exists_rowText (index : Nat) (extension : Text) (part : Section) :
    ∃ between after, Plain between ∧ Plain after ∧
      unlines (Page.rowLines index (.ofSection .client extension part)) = rowText index between after := by
  refine ⟨['>'] ++ (['\n'] ++ unlines ["<td class=\"docs\">".toList, "<div class=\"pilwrap\">".toList]),
    ">&#182;</a>".toList ++ (['\n'] ++ unlines
      ["</div>".toList, proseCell .client part.comment, "</td>".toList, "<td class=\"code\">".toList,
        "<div class=\"highlight\">".toList, codeCell extension part.code, "</div>".toList, "</td>".toList,
        "</tr>".toList]), ?_, ?_, ?_⟩
  · repeat rw [String.toList_ofList]
    refine Plain.append (by decide) (Plain.append (by decide) (Plain.unlines ?_))
    decide
  · repeat rw [String.toList_ofList]
    refine Plain.append (by decide) (Plain.append (by decide) (Plain.unlines ?_))
    simp only [List.forall_mem_cons]
    exact ⟨by decide, Page.plain_proseCell part.comment, by decide, by decide, by decide,
      Page.plain_codeCell extension part.code, by decide⟩
  · unfold Page.rowLines rowText rowLead closedAnchor rowOpening pilcrowOpening Row.ofSection
    simp only [unlines_cons, unlines_nil, List.append_assoc]
    repeat rw [String.toList_ofList]
    simp only [List.cons_append, List.nil_append]

/-- Put a number in front of a sequence of numbers. -/
def sequel (here : Nat) (later : Nat → Nat) : Nat → Nat
  | 0 => here
  | index + 1 => later index

theorem map_range_sequel (here : Nat) (later : Nat → Nat) (count : Nat) :
    (List.range (count + 1)).map (sequel here later) = here :: (List.range count).map later := by
  rw [List.range_succ_eq_map, List.map_cons, List.map_map]
  rfl

/-- The rows of a text are numbered from an index on.  Their openings, and those of the links in them, stand at
the given places and nowhere else, each before the anchor of its number, and they alternate. -/
structure Numbered (first count : Nat) (text : Text) (row pilcrow : Nat → Nat) : Prop where
  rows : occurrences rowOpening text = (List.range count).map row
  pilcrows : occurrences pilcrowOpening text = (List.range count).map pilcrow
  named : ∀ index < count, rowOpening ++ closedAnchor (first + index) <+: text.drop (row index)
  linked : ∀ index < count, pilcrowOpening ++ closedAnchor (first + index) <+: text.drop (pilcrow index)
  inside : ∀ index < count, row index < pilcrow index
  onward : ∀ index, index + 1 < count → pilcrow index < row (index + 1)

namespace Numbered

theorem of_plain (first : Nat) {text : Text} (plain : Plain text) (row pilcrow : Nat → Nat) :
    Numbered first 0 text row pilcrow where
  rows := by
    have none := Text.occurrences_append rowOpening_ne_nil plain.opensNoRow []
    rwa [List.append_nil] at none
  pilcrows := by
    have none := Text.occurrences_append pilcrowOpening_ne_nil plain.opensNoLink []
    rwa [List.append_nil] at none
  named := by simp
  linked := by simp
  inside := by simp
  onward := by simp

variable {first count : Nat} {text : Text} {row pilcrow : Nat → Nat}

/-- Plain text in front moves all places. -/
theorem after_plain (numbered : Numbered first count text row pilcrow) {before : Text} (plain : Plain before) :
    Numbered first count (before ++ text) (before.length + row ·) (before.length + pilcrow ·) where
  rows := by
    rw [Text.occurrences_append rowOpening_ne_nil plain.opensNoRow, numbered.rows, List.map_map]
    rfl
  pilcrows := by
    rw [Text.occurrences_append pilcrowOpening_ne_nil plain.opensNoLink, numbered.pilcrows, List.map_map]
    rfl
  named := by
    intro index within
    rw [List.drop_length_add_append]
    exact numbered.named index within
  linked := by
    intro index within
    rw [List.drop_length_add_append]
    exact numbered.linked index within
  inside := by
    intro index within
    exact Nat.add_lt_add_left (numbered.inside index within) _
  onward := by
    intro index within
    exact Nat.add_lt_add_left (numbered.onward index within) _

/-- A row in front has the number before.  For the places of rows, the opening of a link is text like what is
around it, and the other way round. -/
theorem cons (numbered : Numbered (first + 1) count text row pilcrow) {between after : Text}
    (betweenPlain : Plain between) (afterPlain : Plain after) :
    Numbered first (count + 1) (rowText first between after ++ text)
      (sequel 0 ((rowText first between after).length + row ·))
      (sequel (rowLead first between).length ((rowText first between after).length + pilcrow ·)) where
  rows := by
    have anchorPlain := plain_closedAnchor first
    have selfClear : Clear rowOpening rowOpening.tail := by decide
    have otherClear : Clear rowOpening pilcrowOpening := by decide
    have laterClear : Clear rowOpening (closedAnchor first ++ (between ++ (pilcrowOpening ++
        (closedAnchor first ++ after)))) :=
      anchorPlain.opensNoRow.append (betweenPlain.opensNoRow.append
        (otherClear.append (anchorPlain.opensNoRow.append afterPlain.opensNoRow)))
    have once := Text.occurrences_append_once rowOpening_ne_nil selfClear (Text.clear_nil rowOpening_ne_nil)
      laterClear text
    have written : [] ++ (rowOpening ++ (closedAnchor first ++ (between ++ (pilcrowOpening ++
        (closedAnchor first ++ after))))) = rowText first between after := by
      simp only [rowText, rowLead, List.nil_append, List.append_assoc]
    rw [written, numbered.rows, List.map_map] at once
    rw [map_range_sequel, once]
    rfl
  pilcrows := by
    have anchorPlain := plain_closedAnchor first
    have selfClear : Clear pilcrowOpening pilcrowOpening.tail := by decide
    have otherClear : Clear pilcrowOpening rowOpening := by decide
    have leadClear : Clear pilcrowOpening (rowLead first between) :=
      otherClear.append (anchorPlain.opensNoLink.append betweenPlain.opensNoLink)
    have once := Text.occurrences_append_once pilcrowOpening_ne_nil selfClear leadClear
      (anchorPlain.opensNoLink.append afterPlain.opensNoLink) text
    rw [map_range_sequel, rowText, once, numbered.pilcrows, List.map_map]
    rfl
  named := by
    rintro (_ | index) within
    · refine ⟨between ++ (pilcrowOpening ++ (closedAnchor first ++ after)) ++ text, ?_⟩
      simp only [sequel, List.drop_zero, rowText, rowLead, Nat.add_zero, List.append_assoc]
    · rw [sequel, List.drop_length_add_append, ← Nat.add_assoc, Nat.add_right_comm]
      exact numbered.named index (Nat.lt_of_succ_lt_succ within)
  linked := by
    rintro (_ | index) within
    · refine ⟨after ++ text, ?_⟩
      rw [sequel, rowText, List.append_assoc (rowLead first between), List.drop_left]
      simp only [Nat.add_zero, List.append_assoc]
    · rw [sequel, List.drop_length_add_append, ← Nat.add_assoc, Nat.add_right_comm]
      exact numbered.linked index (Nat.lt_of_succ_lt_succ within)
  inside := by
    rintro (_ | index) within
    · exact List.length_pos_of_ne_nil (List.append_ne_nil_of_left_ne_nil rowOpening_ne_nil _)
    · exact Nat.add_lt_add_left (numbered.inside index (Nat.lt_of_succ_lt_succ within)) _
  onward := by
    rintro (_ | index) within
    · have longer := List.length_pos_of_ne_nil pilcrowOpening_ne_nil
      simp only [sequel, rowText, List.length_append]
      omega
    · exact Nat.add_lt_add_left (numbered.onward index (Nat.lt_of_succ_lt_succ within)) _

end Numbered

/-- Rows are numbered one after the other. -/
theorem exists_numbered_rowsFrom (first : Nat) (extension : Text) (sections : List Section) {after : Text}
    (plain : Plain after) :
    ∃ row pilcrow, Numbered first sections.length
      (unlines (Page.rowsFrom first (sections.map (.ofSection .client extension))) ++ after) row pilcrow := by
  induction sections generalizing first with
  | nil => exact ⟨id, id, .of_plain first plain id id⟩
  | cons part rest ih =>
    rcases ih (first + 1) with ⟨row, pilcrow, numbered⟩
    rcases exists_rowText first extension part with ⟨between, behind, betweenPlain, behindPlain, written⟩
    rw [List.map_cons, Page.rowsFrom, unlines_append, written, List.append_assoc]
    exact ⟨_, _, numbered.cons betweenPlain behindPlain⟩

namespace ClientPage

/-- A page is its rows with plain text on both sides. -/
theorem exists_html_around_rows (source : ClientPage) :
    ∃ before after, Plain before ∧ Plain after ∧ source.page.html = before ++
      (unlines (Page.rowsFrom 0 (source.sections.map (.ofSection .client source.extension))) ++ after) := by
  rcases source.page.exists_plain_around_rows with ⟨before, after, beforePlain, afterPlain, cut⟩
  refine ⟨unlines before, unlines after, .unlines beforePlain, .unlines afterPlain, ?_⟩
  calc source.page.html = unlines source.page.lines := rfl
    _ = unlines (before ++ (Page.rowsFrom 0 source.page.rows ++ after)) := by rw [cut]
    _ = unlines before ++ (unlines (Page.rowsFrom 0 source.page.rows) ++ unlines after) := by
      rw [unlines_append, unlines_append]

/--
The rows of a page have ids of their own, and the sign in each row links to that row.  What opens a row and what
opens such a link each stand on the page as often as there are sections and take turns, beginning with a row;
those with the same number are followed by the same anchor and a quote.  The anchors differ from each other and
from all other ids of a page.
-/
theorem anchors_lead_to_rows (source : ClientPage) :
    let count := source.sections.length
    let html := source.page.html
    (occurrences rowOpening html).length = count ∧ (occurrences pilcrowOpening html).length = count ∧
      (∃ row pilcrow, Numbered 0 count html row pilcrow) ∧
      (furnitureIds ++ (List.range count).map anchor).Nodup := by
  intro count html
  rcases source.exists_html_around_rows with ⟨before, after, beforePlain, afterPlain, written⟩
  rcases exists_numbered_rowsFrom 0 source.extension source.sections afterPlain with ⟨row, pilcrow, numbered⟩
  have onPage := numbered.after_plain beforePlain
  rw [← written] at onPage
  refine ⟨?_, ?_, ⟨_, _, onPage⟩, nodup_ids count⟩
  · rw [onPage.rows, List.length_map, List.length_range]
  · rw [onPage.pilcrows, List.length_map, List.length_range]

end ClientPage

end Marginalia.Html
