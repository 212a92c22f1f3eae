import Marginalia.Proofs.Path.Spelling
import Marginalia.Proofs.Run.Collection
import Marginalia.Proofs.Run.Trace

/-!
# Where pages are placed

Documents are refused when two of them have the same page.  That a page is not a directory of another one
is not looked at: a file `a` and a file `b` in a directory `a.html` are both documents, although the page
of the first and the directory for the page of the second have one name.  Such pages are exactly those
where a file lies below a directory with the names of a page.

A run does not make both.  A path that leads through another one needs a directory there, and a page is a
file; since nothing is ever removed, whichever of the two comes later fails.
-/

namespace Marginalia

/-- A path is strictly above another one, component by component. -/
def Path.Encloses (above below : Path) : Prop :=
  above.components <+: below.components ∧ above.components ≠ below.components

namespace Path

/-! ## Pages above pages -/

/-- Every path has a page whose directory has the names of the path's own directory. -/
theorem namesOfPage_eq (path : Path) :
    ∃ last, path.namesOfPage = path.names.dropLast ++ [last] :=
  ⟨_, pageNames_eq path.names⟩

/-- A page is above another page exactly when it has the names of a directory of the other file. -/
theorem page_encloses_iff (first second : Path) :
    first.page.Encloses second.page ↔ first.page.components <+: second.names.dropLast.map .name := by
  rcases namesOfPage_eq second with ⟨last, named⟩
  unfold Encloses
  rw [components_page second, named, List.map_append, List.map_singleton, List.prefix_concat_iff]
  constructor
  · rintro ⟨whole | isPrefix, differs⟩
    · exact absurd whole differs
    · exact isPrefix
  · intro isPrefix
    refine ⟨Or.inr isPrefix, ?_⟩
    intro same
    have short := isPrefix.length_le
    rw [same, List.length_append, List.length_singleton] at short
    omega

theorem exists_namesOfPage_append {first second : Path} (encloses : first.page.Encloses second.page) :
    ∃ more, more ≠ [] ∧ second.namesOfPage = first.namesOfPage ++ more := by
  have injective : Function.Injective Component.name := fun _ _ => Component.name.inj
  rcases encloses with ⟨isPrefix, differs⟩
  rw [components_page, components_page] at isPrefix differs
  rcases (List.prefix_map_iff_of_injective injective).mp isPrefix with ⟨more, whole⟩
  refine ⟨more, ?_, whole.symm⟩
  rintro rfl
  rw [List.append_nil] at whole
  exact differs (congrArg _ whole)

end Path

namespace FileSystem

/-! ## Files above pages -/

theorem directory_above {files : FileSystem} {root : Path} (spelled : root.bytes ≠ [])
    {above more : List Bytes} (aboveSome : above ≠ []) (moreSome : more ≠ [])
    (areNames : ∀ name ∈ above ++ more, Path.IsName name) {location : Location}
    (leads : files.locate (root.join (.ofNames (above ++ more))) = .ok location) :
    ∃ directory, files.locate (root.join (.ofNames above)) = .ok directory ∧
      files.get? directory = some .directory := by
  have moreNames : ∀ name ∈ more, Path.IsName name := fun name member =>
    areNames name (List.mem_append_right _ member)
  rw [Path.join_ofNames_append aboveSome moreSome areNames, locate_eq_ok_iff] at leads
  rcases walks_of_resolve_join (Path.join_ne_nil spelled _) moreSome moreNames leads with
    ⟨directory, links, leadsAbove, walks⟩
  exact ⟨directory, leadsAbove, walks.directory_of_ne_nil (by simpa using moreSome)⟩

/-- Where a page is a file, no page that exists is below it. -/
theorem not_encloses_of_file {files : FileSystem} {root : Path} (spelled : root.bytes ≠ [])
    {first second : Path} {location location' : Location} {content : Bytes}
    (leads : files.locate (root.join first.page) = .ok location)
    (isFile : files.get? location = some (.file content))
    (leads' : files.locate (root.join second.page) = .ok location') :
    ¬ first.page.Encloses second.page := by
  intro encloses
  rcases Path.exists_namesOfPage_append encloses with ⟨more, moreSome, whole⟩
  have areNames := second.isName_of_mem_namesOfPage
  rw [Path.page_eq_ofNames] at leads leads'
  rw [whole] at areNames leads'
  rcases directory_above spelled first.namesOfPage_ne_nil moreSome areNames leads' with
    ⟨directory, leadsAbove, isDirectory⟩
  cases leads.symm.trans leadsAbove
  cases isFile.symm.trans isDirectory

end FileSystem

/-! ## Runs -/

/-- After a run that has made all pages, each of them is a file. -/
theorem page_of_course {configuration : Configuration} {prologue : Prologue} {root : Path}
    {documents : List Document} {contents : List Bytes} {start later : World}
    {result : Except Failure (List PageReport)}
    (course : Course configuration prologue root documents start documents contents result later)
    (all : contents.length = documents.length) {document : Document} (member : document ∈ documents) :
    ∃ location content, later.files.locate (root.join document.page) = .ok location ∧
      later.files.get? location = some (.file content) := by
  rcases List.getElem?_of_mem member with ⟨index, isDocument⟩
  have reached : index < contents.length := by
    rw [all]
    exact (List.getElem?_eq_some_iff.mp isDocument).1
  rcases course.turn (List.getElem?_eq_getElem reached) with ⟨_, isDocument', publishes, changes⟩
  cases isDocument.symm.trans isDocument'
  rcases publishes.page with ⟨location, leads, there⟩
  rcases changes.grows.file there with ⟨content, kept⟩
  exact ⟨location, content, changes.grows.locate leads, kept⟩

/-- A run that succeeds has no page above another: both pages are files in the end, in whichever order they were
made. -/
theorem not_encloses_of_run_ok {configuration : Configuration} {world start : World} {base : Path}
    {documents : List Document} {reports : List PageReport} (writes : configuration.dryRun = false)
    (prepared : outcome (prepare configuration) world = (.ok (base, documents), start))
    (succeeded : (outcome (run configuration) world).1 = .ok reports) {first second : Document}
    (isFirst : first ∈ documents) (isSecond : second ∈ documents) :
    ¬ first.page.Encloses second.page := by
  rcases prepare_ok prepared with ⟨_, collected, _, _, located⟩
  have spelled : (base.join configuration.output).bytes ≠ [] := by
    rcases FileSystem.resolve_eq_ok_iff.mp (FileSystem.locate_eq_ok_iff.mp located) with
      ⟨⟨_, spelled, _⟩, _⟩
    exact Path.join_ne_nil spelled _
  rcases run_cases writes world with ⟨failure, failed, _⟩ |
    ⟨base', documents', prologue, start', contents, prepared', _, _, course⟩
  · cases succeeded.symm.trans failed
  · cases prepared.symm.trans prepared'
    have all := course.ok_iff.mp ⟨reports, succeeded⟩
    rcases page_of_course course all isFirst with ⟨_, _, leads, isFile⟩
    rcases page_of_course course all isSecond with ⟨_, _, leads', _⟩
    rw [collected.page first isFirst] at leads ⊢
    rw [collected.page second isSecond] at leads' ⊢
    exact FileSystem.not_encloses_of_file spelled leads isFile leads'

/-- Among the documents that are found no two have the same page, and one page is above another exactly
when the other file lies below a directory with the names of the page.  A run with such documents fails. -/
theorem pages_nest_below_page_names (base : Path) (inputs : List Path) (world : World)
    (documents : List Document)
    (found : (outcome (collectDocuments base inputs) world).1 = .ok documents) :
    (documents.Pairwise fun first second => first.page.components ≠ second.page.components) ∧
      (∀ first ∈ documents, ∀ second ∈ documents, first.page.Encloses second.page ↔
        first.page.components <+: second.relative.names.dropLast.map .name) ∧
      ∀ configuration start, configuration.dryRun = false →
        outcome (prepare configuration) world = (.ok (base, documents), start) →
        (∃ first ∈ documents, ∃ second ∈ documents, first.page.Encloses second.page) →
        ∃ failure, (outcome (run configuration) world).1 = .error failure := by
  rcases collectFrom_cases (.nil world.files base) inputs rfl with
    ⟨relatives, documents', found', gathered⟩ | ⟨_, _, _, _, _, _, _, _, _, failed⟩
  · cases found.symm.trans found'
    refine ⟨gathered.pages_pairwise, ?_, ?_⟩
    · intro first isFirst second isSecond
      rw [(gathered.mem isFirst).2, (gathered.mem isSecond).2]
      exact Path.page_encloses_iff first.relative second.relative
    · rintro configuration start writes prepared ⟨first, isFirst, second, isSecond, encloses⟩
      cases ended : (outcome (run configuration) world).1 with
      | error failure => exact ⟨failure, rfl⟩
      | ok reports =>
        exact absurd encloses (not_encloses_of_run_ok writes prepared ended isFirst isSecond)
  · cases found.symm.trans failed

/-- A file, and another one in a directory whose name is that of the first one's page. -/
def worldWithPageDirectory : World where
  files :=
    { entries :=
        [([Utf8.encode "a".toList], .file (Utf8.encode "x\n".toList)),
          ([Utf8.encode "a.html".toList], .directory),
          ([Utf8.encode "a.html".toList, Utf8.encode "b".toList], .file (Utf8.encode "y\n".toList))],
      workingDirectory := some [] }

/-- Both files as inputs. -/
def configurationNested : Configuration where
  inputs := [.ofText "a".toList, .ofText "a.html/b".toList]
  prologue := .none

/-- The documents of the two files. -/
def documentsNested : List Document :=
  [.make (.ofText "/a".toList) (.ofText "a".toList),
    .make (.ofText "/a.html/b".toList) (.ofText "a.html/b".toList)]

/-- The page of the first file is to be where the directory for the page of the second one is. -/
theorem pages_nest_below_page_names_nested :
    (outcome (collectDocuments (.ofText "/".toList) configurationNested.inputs)
        worldWithPageDirectory).1 = .ok documentsNested ∧
      configurationNested.dryRun = false ∧
      outcome (prepare configurationNested) worldWithPageDirectory =
        (.ok (.ofText "/".toList, documentsNested), worldWithPageDirectory) ∧
      (∃ first ∈ documentsNested, ∃ second ∈ documentsNested,
        first.page.Encloses second.page) ∧
      ∃ failure, (outcome (run configurationNested) worldWithPageDirectory).1 = .error failure := by
  have found : (outcome (collectDocuments (.ofText "/".toList) configurationNested.inputs)
      worldWithPageDirectory).1 = .ok documentsNested := rfl
  have nested : ∃ first ∈ documentsNested, ∃ second ∈ documentsNested,
      first.page.Encloses second.page := by
    refine ⟨_, List.mem_cons_self, _, List.mem_cons_of_mem _ List.mem_cons_self, ?_, ?_⟩
    · decide
    · decide
  exact ⟨found, rfl, rfl, nested,
    (pages_nest_below_page_names _ _ worldWithPageDirectory _ found).2.2 _ _ rfl rfl nested⟩

/-- Documents are found although the page of one is above the page of the other.  The run then stops after
it has written the first page. -/
theorem collectDocuments_nests_pages :
    (outcome (collectDocuments (.ofText "/".toList) configurationNested.inputs)
        worldWithPageDirectory).1 = .ok documentsNested ∧
      (Path.ofText "a.html".toList).Encloses (.ofText "a.html/b.html".toList) ∧
      documentsNested.map Document.page =
        [.ofText "a.html".toList, .ofText "a.html/b.html".toList] ∧
      (outcome (run configurationNested) worldWithPageDirectory).1 =
        .error (.cannotCreateDirectory (.ofText "/docs/a.html".toList) .exists) ∧
      (outcome (run configurationNested) worldWithPageDirectory).2.files.get?
          [Utf8.encode "docs".toList, Utf8.encode "a.html".toList] ≠ none := by
  refine ⟨rfl, ⟨by decide, by decide⟩, rfl, ?_, ?_⟩
  · decide +kernel
  · decide +kernel

end Marginalia
