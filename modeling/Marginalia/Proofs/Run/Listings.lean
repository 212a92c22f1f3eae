import Mathlib.Data.Set.List
import Marginalia.Run.Basic
import Marginalia.Proofs.Path.Links
import Marginalia.Proofs.Text.Json

/-!
# Listings are read back

Listings are written as an array with an object for each document, which holds the path of the document and
its sections.  A reader finds in it the very texts of the listings, whatever they hold.  A path is written
as text, so that there is nothing to write exactly if some path is not the UTF-8 form of a text.
-/

namespace Marginalia

/-- A section as a reader finds it. -/
def Section.readBack (part : Section) : Json :=
  .object [("comment".toList, .text part.comment), ("code".toList, .text part.code)]

/-- The listing of a document as a reader finds it, whose path is given as a text. -/
def Listing.readBack (path : Text) (listing : Listing) : Json :=
  .object [("path".toList, .text path), ("sections".toList, .array (listing.sections.map Section.readBack))]

/-- The value that is written for a document whose path is a text. -/
theorem Listing.toJson?_of_encode {path : Text} {listing : Listing}
    (spelled : Utf8.encode path = listing.path.bytes) :
    ∃ value, listing.toJson? = some value ∧ value.toJson = listing.readBack path := by
  have read := (Utf8.decode?_eq_some_iff listing.path.bytes path).mpr spelled
  refine ⟨_, by rw [Listing.toJson?, read, Option.map_some], ?_⟩
  have parts : ∀ part : Section, part.toJson.toJson = part.readBack := by
    intro part
    simp [Section.toJson, Section.readBack, JsonValue.toJson]
  simp [JsonValue.toJson, Listing.readBack, parts]

theorem Listing.isText_of_toJson? {listing : Listing} {value : JsonValue}
    (written : listing.toJson? = some value) : Path.IsText listing.path.bytes := by
  obtain ⟨path, read, -⟩ := Option.map_eq_some_iff.mp written
  exact ⟨path, (Utf8.decode?_eq_some_iff _ _).mp read⟩

/-- The values that are written for documents whose paths are texts. -/
theorem mapM_toJson?_of_encode {paths : List Text} {listings : List Listing}
    (spelled : paths.map Utf8.encode = listings.map (·.path.bytes)) :
    ∃ values, listings.mapM Listing.toJson? = some values ∧
      values.map JsonValue.toJson = List.zipWith Listing.readBack paths listings := by
  simp only [mapM_eq_some_iff]
  induction listings generalizing paths with
  | nil => exact ⟨[], rfl, by simp⟩
  | cons listing rest ih =>
    cases paths with
    | nil => cases spelled
    | cons path paths =>
      obtain ⟨first, others⟩ := List.cons.inj spelled
      obtain ⟨value, written, read⟩ := Listing.toJson?_of_encode first
      obtain ⟨values, allWritten, allRead⟩ := ih others
      exact ⟨value :: values, by simp [written, allWritten], by simp [read, allRead]⟩

theorem listingsJson_of_encode {paths : List Text} {listings : List Listing}
    (spelled : paths.map Utf8.encode = listings.map (·.path.bytes)) :
    ∃ text, listingsJson listings = .ok text ∧
      Json.read text = some (.array (List.zipWith Listing.readBack paths listings)) := by
  obtain ⟨values, written, read⟩ := mapM_toJson?_of_encode spelled
  refine ⟨(JsonValue.array values).render 0, by rw [listingsJson, written], ?_⟩
  rw [Json.read_render, JsonValue.toJson, read]

theorem listingsJson_of_not_isText {listings : List Listing} {listing : Listing}
    (inside : listing ∈ listings) (invalid : ¬Path.IsText listing.path.bytes) :
    listingsJson listings = .error .unlistablePath := by
  cases written : listings.mapM Listing.toJson? with
  | none => rw [listingsJson, written]
  | some values =>
    have found : listing.toJson? ∈ values.map some := by
      rw [← (mapM_eq_some_iff _ _ _).mp written]
      exact List.mem_map_of_mem inside
    obtain ⟨value, -, same⟩ := List.mem_map.mp found
    exact absurd (Listing.isText_of_toJson? same.symm) invalid

theorem exists_paths_of_isText {listings : List Listing}
    (valid : ∀ listing ∈ listings, Path.IsText listing.path.bytes) :
    ∃ paths : List Text, paths.map Utf8.encode = listings.map (·.path.bytes) := by
  have spelled : listings.map (·.path.bytes) ∈ Set.range (List.map Utf8.encode) := by
    rw [Set.range_list_map]
    intro bytes inside
    obtain ⟨listing, listed, rfl⟩ := List.mem_map.mp inside
    exact valid listing listed
  exact spelled

/-- A reader finds in the text of listings exactly what they hold.  There is such a text unless some path is
not a text. -/
theorem listingsJson_lossless (listings : List Listing) :
    (∀ paths : List Text, paths.map Utf8.encode = listings.map (·.path.bytes) →
      ∃ text, listingsJson listings = .ok text ∧
        Json.read text = some (.array (List.zipWith Listing.readBack paths listings))) ∧
      ∀ failure, listingsJson listings = .error failure ↔
        failure = .unlistablePath ∧ ∃ listing ∈ listings, ¬Path.IsText listing.path.bytes := by
  refine ⟨fun paths spelled => listingsJson_of_encode spelled, fun failure => ?_⟩
  constructor
  · intro failed
    by_cases invalid : ∃ listing ∈ listings, ¬Path.IsText listing.path.bytes
    · obtain ⟨listing, inside, notText⟩ := invalid
      rw [listingsJson_of_not_isText inside notText] at failed
      exact ⟨(Except.error.inj failed).symm, listing, inside, notText⟩
    · have valid : ∀ listing ∈ listings, Path.IsText listing.path.bytes := by simpa using invalid
      obtain ⟨paths, spelled⟩ := exists_paths_of_isText valid
      obtain ⟨text, written, -⟩ := listingsJson_of_encode spelled
      rw [written] at failed
      cases failed
  · rintro ⟨rfl, listing, inside, invalid⟩
    exact listingsJson_of_not_isText inside invalid

/-- Two documents: one with every kind of character that is not written as it is, and some that are, and one
with no sections and a path outside ASCII. -/
def specialListings : List Listing :=
  [{ path := ⟨Utf8.encode "a \"b\\c".toList⟩,
      sections := [⟨"\"\\/\x08\t\n\x0c\r".toList, "\x00\x1f\x7f\u2028😀".toList⟩, ⟨[], []⟩] },
    { path := ⟨Utf8.encode "é/𝔞".toList⟩, sections := [] }]

theorem listingsJson_lossless_special :
    (["a \"b\\c".toList, "é/𝔞".toList].map Utf8.encode = specialListings.map (·.path.bytes) ∧
      ∃ text, listingsJson specialListings = .ok text ∧
        Json.read text = some (.array [
          .object [("path".toList, .text "a \"b\\c".toList),
            ("sections".toList, .array [
              .object [("comment".toList, .text "\"\\/\x08\t\n\x0c\r".toList),
                ("code".toList, .text "\x00\x1f\x7f\u2028😀".toList)],
              .object [("comment".toList, .text []), ("code".toList, .text [])]])],
          .object [("path".toList, .text "é/𝔞".toList), ("sections".toList, .array [])]])) ∧
      listingsJson (specialListings ++ [⟨⟨[0xFF]⟩, []⟩]) = .error .unlistablePath := by
  refine ⟨⟨rfl, (listingsJson_lossless specialListings).1 ["a \"b\\c".toList, "é/𝔞".toList] rfl⟩, ?_⟩
  refine ((listingsJson_lossless _).2 .unlistablePath).mpr
    ⟨rfl, ⟨⟨[0xFF]⟩, []⟩, List.mem_append_right _ List.mem_cons_self, ?_⟩
  rintro ⟨path, spelled⟩
  have read := (Utf8.decode?_eq_some_iff _ path).mpr spelled
  have invalid : Utf8.decode? [0xFF] = none := by decide
  rw [invalid] at read
  cases read

end Marginalia
