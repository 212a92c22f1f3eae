import Mathlib.Data.List.Induction
import Mathlib.Data.List.Nodup
import Marginalia.Proofs.Run.Documents

/-!
# Which documents are found

`collectDocuments` goes through the inputs once and remembers the documents that it has made.  Seen from
outside nothing is remembered: every input has a normal form or none, the documents belong to the inputs
at which a normal form occurs for the first time, and the first input that cannot be taken decides the
failure.

Paths are compared by their components, so that two spellings of a path count as one.  Nothing is
assumed of the file system; that normal forms tell files apart is not needed here.
-/

namespace Marginalia

/-- The normal form of an input, or why it has none. -/
def FileSystem.normalForm (files : FileSystem) (base input : Path) : Except Failure Path :=
  (outcome (normalizeInput base input) { files := files }).1

/-- Different paths have different pages. -/
def PagesApart (relatives : List Path) : Prop :=
  ∀ first ∈ relatives, ∀ second ∈ relatives, first.components ≠ second.components →
    first.page.components ≠ second.page.components

/-- Each input as a document of its own. -/
def candidates (base : Path) (inputs relatives : List Path) : List Document :=
  inputs.zipWith (fun input relative => .make (base.join input) relative) relatives

/-- The documents with no earlier one for the same file, in order. -/
def firsts (documents : List Document) : List Document :=
  (List.range documents.length).filterMap fun index =>
    documents[index]?.filter fun document =>
      ∀ earlier ∈ documents.take index, earlier.relative.components ≠ document.relative.components

/-- The documents of inputs that can all be taken, with the normal forms of these inputs. -/
structure Gathered (files : FileSystem) (base : Path) (inputs relatives : List Path)
    (documents : List Document) : Prop where
  normal : inputs.map (files.normalForm base) = relatives.map .ok
  apart : PagesApart relatives
  first : documents = firsts (candidates base inputs relatives)

/-- Why an input cannot be taken once documents have been found. -/
inductive Refuses (files : FileSystem) (base : Path) (found : List Document) (input : Path) :
    Failure → Prop where
  /-- The input or the base directory does not resolve. -/
  | unresolved {path : Path} {fault : Fault}
      (abnormal : files.normalForm base input = .error (.cannotRead path fault))
      (unresolved : Unresolved files base [input] path fault) :
      Refuses files base found input (.cannotRead path fault)
  /-- One document, and no other, has the page of the input and is not the document of the input. -/
  | collision {relative : Path} {document : Document}
      (normal : files.normalForm base input = .ok relative) (member : document ∈ found)
      (same : document.page.components = relative.page.components)
      (differs : document.relative.components ≠ relative.components)
      (only : ∀ other ∈ found, other.page.components = relative.page.components → other = document) :
      Refuses files base found input (.collision document.relative relative relative.page)

/-! ## Normal forms -/

/-- Normalising an input looks at files only, and changes nothing. -/
theorem outcome_normalizeInput_eq (base input : Path) (world : World) :
    outcome (normalizeInput base input) world = (world.files.normalForm base input, world) := by
  unfold FileSystem.normalForm normalizeInput
  simp only [outcome_bind, outcome_canonicalize]
  cases world.files.canonicalize (base.join input) with
  | error fault => rfl
  | ok target =>
    simp only [mapError_ok]
    cases world.files.canonicalize base <;> rfl

theorem Refuses.of_abnormal {files : FileSystem} {base input : Path} {failure : Failure}
    (found : List Document) (abnormal : files.normalForm base input = .error failure) :
    Refuses files base found input failure := by
  have normalized := outcome_normalizeInput_eq base input { files := files }
  rw [abnormal] at normalized
  rcases outcome_normalizeInput base input { files := files } with ⟨fault, unresolved, failed⟩ |
    ⟨fault, unresolved, failed⟩ | ⟨_, _, _, _, _, succeeded⟩
  · cases normalized.symm.trans failed
    exact .unresolved abnormal (Or.inl ⟨List.mem_singleton_self input, unresolved⟩)
  · cases normalized.symm.trans failed
    exact .unresolved abnormal (Or.inr ⟨rfl, unresolved⟩)
  · cases normalized.symm.trans succeeded

/-! ## First occurrences -/

/-- A further document is kept if it is the first for its file.  What comes before a position does not change
when the list grows at its end. -/
theorem firsts_concat (documents : List Document) (last : Document) :
    firsts (documents ++ [last]) = firsts documents ++
      if ∃ earlier ∈ documents, earlier.relative.components = last.relative.components then []
      else [last] := by
  unfold firsts
  rw [List.length_append, List.length_singleton, List.range_succ, List.filterMap_append]
  congr 1
  · apply List.filterMap_congr
    intro index member
    have within := List.mem_range.mp member
    rw [List.getElem?_append_left within, List.take_append_of_le_length (Nat.le_of_lt within)]
  · simp only [List.filterMap_cons, List.filterMap_nil, List.getElem?_concat_length, List.take_left,
      Option.filter_some]
    by_cases repeated : ∃ earlier ∈ documents,
      earlier.relative.components = last.relative.components
    · rw [if_pos repeated, if_neg (by simpa using repeated)]
    · rw [if_neg repeated, if_pos (by simpa using repeated)]

theorem firsts_sublist (documents : List Document) : (firsts documents).Sublist documents := by
  induction documents using List.reverseRecOn with
  | nil => exact .slnil
  | append_singleton documents last ih =>
    rw [firsts_concat]
    split
    · exact (ih.append (List.nil_sublist _))
    · exact ih.append (List.Sublist.refl _)

theorem exists_firsts {documents : List Document} {document : Document}
    (member : document ∈ documents) :
    ∃ first ∈ firsts documents, first.relative.components = document.relative.components := by
  induction documents using List.reverseRecOn generalizing document with
  | nil => cases member
  | append_singleton documents last ih =>
    rw [firsts_concat]
    rcases List.mem_append.mp member with before | isLast
    · rcases ih before with ⟨first, kept, same⟩
      exact ⟨first, List.mem_append_left _ kept, same⟩
    · cases List.mem_singleton.mp isLast
      split
      · rename_i repeated
        rcases repeated with ⟨earlier, before, same⟩
        rcases ih before with ⟨first, kept, same'⟩
        exact ⟨first, List.mem_append_left _ kept, same'.trans same⟩
      · exact ⟨last, List.mem_append_right _ (List.mem_singleton_self last), rfl⟩

theorem firsts_pairwise (documents : List Document) :
    (firsts documents).Pairwise fun first second =>
      first.relative.components ≠ second.relative.components := by
  induction documents using List.reverseRecOn with
  | nil => exact .nil
  | append_singleton documents last ih =>
    rw [firsts_concat]
    split
    · simpa using ih
    · rename_i new
      rw [List.pairwise_append]
      refine ⟨ih, List.pairwise_singleton _ _, ?_⟩
      intro first kept second isLast same
      cases List.mem_singleton.mp isLast
      exact new ⟨first, (firsts_sublist documents).subset kept, same⟩

/-! ## Inputs that can be taken -/

theorem Path.page_congr {first second : Path} (same : first.components = second.components) :
    first.page = second.page := by
  unfold Path.page Path.names
  rw [same]

theorem PagesApart.concat {relatives : List Path} {relative : Path} (apart : PagesApart relatives)
    (free : ∀ other ∈ relatives, other.components ≠ relative.components →
      other.page.components ≠ relative.page.components) : PagesApart (relatives ++ [relative]) := by
  intro first isFirst second isSecond differ
  rcases List.mem_append.mp isFirst with isFirst | isFirst
  · rcases List.mem_append.mp isSecond with isSecond | isSecond
    · exact apart first isFirst second isSecond differ
    · cases List.mem_singleton.mp isSecond
      exact free first isFirst differ
  · cases List.mem_singleton.mp isFirst
    rcases List.mem_append.mp isSecond with isSecond | isSecond
    · exact (free second isSecond differ.symm).symm
    · cases List.mem_singleton.mp isSecond
      exact absurd rfl differ

theorem mem_candidates {base : Path} {inputs relatives : List Path} {document : Document}
    (member : document ∈ candidates base inputs relatives) :
    document.relative ∈ relatives ∧ document.page = document.relative.page := by
  rcases List.getElem?_of_mem member with ⟨index, isDocument⟩
  rw [candidates, List.getElem?_zipWith] at isDocument
  split at isDocument
  · rename_i normal
    cases isDocument
    exact ⟨List.mem_of_getElem? normal, rfl⟩
  · cases isDocument

section Normal

variable {files : FileSystem} {base : Path} {inputs relatives : List Path}
  (normal : inputs.map (files.normalForm base) = relatives.map .ok)

include normal

theorem mem_relatives_iff {relative : Path} :
    relative ∈ relatives ↔ ∃ input ∈ inputs, files.normalForm base input = .ok relative := by
  rw [← List.mem_map, normal, List.mem_map_of_injective fun _ _ => Except.ok.inj]

theorem length_relatives : relatives.length = inputs.length := by
  have lengths := congrArg List.length normal
  rw [List.length_map, List.length_map] at lengths
  exact lengths.symm

theorem exists_candidate {relative : Path} (member : relative ∈ relatives) :
    ∃ document ∈ candidates base inputs relatives, document.relative = relative := by
  rcases List.getElem?_of_mem member with ⟨index, isRelative⟩
  have within : index < inputs.length := by
    rw [← length_relatives normal]
    exact (List.getElem?_eq_some_iff.mp isRelative).1
  have isInput := List.getElem?_eq_getElem within
  refine ⟨.make (base.join inputs[index]) relative, ?_, rfl⟩
  apply List.mem_of_getElem?
  rw [candidates, List.getElem?_zipWith, isInput, isRelative]

theorem candidates_concat (input relative : Path) :
    candidates base (inputs ++ [input]) (relatives ++ [relative]) =
      candidates base inputs relatives ++ [.make (base.join input) relative] :=
  List.zipWith_append (length_relatives normal).symm

end Normal

namespace Gathered

variable {files : FileSystem} {base : Path} {inputs relatives : List Path} {found : List Document}

theorem nil (files : FileSystem) (base : Path) : Gathered files base [] [] [] where
  normal := rfl
  apart := by simp [PagesApart]
  first := rfl

variable (gathered : Gathered files base inputs relatives found)

include gathered

theorem mem {document : Document} (member : document ∈ found) :
    document.relative ∈ relatives ∧ document.page = document.relative.page := by
  rw [gathered.first] at member
  exact mem_candidates ((firsts_sublist _).subset member)

theorem exists_document {relative : Path} (member : relative ∈ relatives) :
    ∃ document ∈ found, document.relative.components = relative.components := by
  rcases exists_candidate gathered.normal member with ⟨candidate, listed, rfl⟩
  rw [gathered.first]
  exact exists_firsts listed

theorem pages_pairwise : found.Pairwise fun first second =>
    first.page.components ≠ second.page.components := by
  have files := firsts_pairwise (candidates base inputs relatives)
  rw [← gathered.first] at files
  refine files.imp_of_mem ?_
  intro first second isFirst isSecond differ
  rcases gathered.mem isFirst with ⟨listed, isPage⟩
  rcases gathered.mem isSecond with ⟨listed', isPage'⟩
  rw [isPage, isPage']
  exact gathered.apart _ listed _ listed' differ

/-- An input for a file that has a document changes nothing. -/
theorem concat_repeated {input relative : Path} {document : Document}
    (normal : files.normalForm base input = .ok relative) (member : document ∈ found)
    (same : document.relative.components = relative.components) :
    Gathered files base (inputs ++ [input]) (relatives ++ [relative]) found where
  normal := by simp [gathered.normal, normal]
  apart := by
    refine gathered.apart.concat ?_
    intro other listed differ
    rw [← same] at differ
    rw [← Path.page_congr same]
    exact gathered.apart other listed _ (gathered.mem member).1 differ
  first := by
    have listed := member
    rw [gathered.first] at listed
    rw [candidates_concat gathered.normal, firsts_concat, if_pos, List.append_nil, gathered.first]
    exact ⟨document, (firsts_sublist _).subset listed, same⟩

/-- An input for another file adds a document if its page is free.  Every earlier normal form has the page of
some document, also when it repeats one. -/
theorem concat_new {input relative : Path} (normal : files.normalForm base input = .ok relative)
    (new : ∀ document ∈ found, document.relative.components ≠ relative.components)
    (free : ∀ document ∈ found, document.page.components ≠ relative.page.components) :
    Gathered files base (inputs ++ [input]) (relatives ++ [relative])
      (found ++ [.make (base.join input) relative]) where
  normal := by simp [gathered.normal, normal]
  apart := by
    refine gathered.apart.concat ?_
    intro other listed _
    rcases gathered.exists_document listed with ⟨document, member, same⟩
    rw [← Path.page_congr same, ← (gathered.mem member).2]
    exact free document member
  first := by
    rw [candidates_concat gathered.normal, firsts_concat, if_neg, ← gathered.first]
    rintro ⟨candidate, listed, same⟩
    rcases exists_firsts listed with ⟨document, member, same'⟩
    rw [← gathered.first] at member
    exact new document member (same'.trans same)

/-- The first document whose page is that of a different file is the only one. -/
theorem refuses {input relative : Path} {document : Document}
    (normal : files.normalForm base input = .ok relative)
    (new : ∀ document ∈ found, document.relative.components ≠ relative.components)
    (member : document ∈ found) (same : document.page.components = relative.page.components) :
    Refuses files base found input (.collision document.relative relative relative.page) := by
  have distinct : (found.map fun other => other.page.components).Nodup :=
    List.pairwise_map.mpr gathered.pages_pairwise
  refine .collision normal member same (new document member) ?_
  intro other otherMember otherSame
  exact List.inj_on_of_nodup_map distinct otherMember member (otherSame.trans same.symm)

/-- Nothing can be refused among inputs that can all be taken. -/
theorem not_refuses {rest all : List Path} {input : Path} {failure : Failure}
    (refused : Refuses files base found input failure)
    (normal : (inputs ++ input :: rest).map (files.normalForm base) = all.map .ok) :
    ¬ PagesApart all := by
  intro apart
  cases refused with
  | unresolved abnormal =>
    have listed : files.normalForm base input ∈ (inputs ++ input :: rest).map (files.normalForm base) :=
      List.mem_map_of_mem (by simp)
    rw [normal, abnormal] at listed
    simp at listed
  | @collision relative document normalInput member same differs =>
    rcases gathered.mem member with ⟨listed, isPage⟩
    rcases (mem_relatives_iff gathered.normal).mp listed with ⟨earlier, isEarlier, normalEarlier⟩
    have first : document.relative ∈ all :=
      (mem_relatives_iff normal).mpr ⟨earlier, by simp [isEarlier], normalEarlier⟩
    have second : relative ∈ all := (mem_relatives_iff normal).mpr ⟨input, by simp, normalInput⟩
    rw [isPage] at same
    exact apart _ first _ second differs same

end Gathered

/-! ## All inputs -/

/-- An input is refused, or it is taken and the rest follows in a world with the same files.  If it has a normal
form, its file has a document already, or its page is taken, or it gets a document. -/
theorem outcome_collectFrom_cons {files : FileSystem} {base : Path} {before relatives : List Path}
    {found : List Document} (gathered : Gathered files base before relatives found) (input : Path)
    (rest : List Path) {world : World} (here : world.files = files) :
    (∃ failure, Refuses files base found input failure ∧
        (outcome (collectFrom base found (input :: rest)) world).1 = .error failure) ∨
      ∃ relative found' later, Gathered files base (before ++ [input]) (relatives ++ [relative]) found' ∧
        later.files = files ∧
        outcome (collectFrom base found (input :: rest)) world =
          outcome (collectFrom base found' rest) later := by
  rw [collectFrom, outcome_bind, outcome_normalizeInput_eq, here]
  cases normal : files.normalForm base input with
  | error failure => exact Or.inl ⟨failure, .of_abnormal found normal, rfl⟩
  | ok relative =>
    simp only
    split
    · rename_i repeated
      rcases List.any_eq_true.mp repeated with ⟨document, member, same⟩
      have taken := gathered.concat_repeated normal member (by simpa using same)
      rw [outcome_bind, outcome_report]
      refine Or.inr ⟨relative, found, _, taken, ?_, rfl⟩
      exact here
    · rename_i noneRepeated
      have new : ∀ document ∈ found, document.relative.components ≠ relative.components := by
        simpa using noneRepeated
      split
      · rename_i document isFirst
        have member := List.mem_of_find?_eq_some isFirst
        have same : document.page.components = relative.page.components := by
          simpa [Document.make] using List.find?_some isFirst
        exact Or.inl ⟨_, gathered.refuses normal new member same, rfl⟩
      · rename_i absent
        have free : ∀ document ∈ found, document.page.components ≠ relative.page.components := by
          simpa [Document.make] using absent
        exact Or.inr ⟨relative, _, world, gathered.concat_new normal new free, here, rfl⟩

theorem collectFrom_cases {files : FileSystem} {base : Path} {before relatives : List Path}
    {found : List Document} (gathered : Gathered files base before relatives found)
    (rest : List Path) {world : World} (here : world.files = files) :
    (∃ all documents, (outcome (collectFrom base found rest) world).1 = .ok documents ∧
        Gathered files base (before ++ rest) all documents) ∨
      ∃ taken input after all documents failure, rest = taken ++ input :: after ∧
        Gathered files base (before ++ taken) all documents ∧
        Refuses files base documents input failure ∧
        (outcome (collectFrom base found rest) world).1 = .error failure := by
  induction rest generalizing before relatives found world with
  | nil => exact Or.inl ⟨relatives, found, rfl, by simpa using gathered⟩
  | cons input rest ih =>
    rcases outcome_collectFrom_cons gathered input rest here with ⟨failure, refused, failed⟩ |
      ⟨relative, found', later, taken, here', further⟩
    · exact Or.inr ⟨[], input, rest, relatives, found, failure, rfl, by simpa using gathered, refused,
        failed⟩
    · rw [further]
      rcases ih taken here' with ⟨all, documents, done, ends⟩ |
        ⟨more, refusedInput, after, all, documents, failure, rfl, ends, refused, failed⟩
      · exact Or.inl ⟨all, documents, done, by simpa using ends⟩
      · exact Or.inr ⟨input :: more, refusedInput, after, all, documents, failure, rfl,
          by simpa using ends, refused, failed⟩

/-- The documents of a list of inputs are found exactly when every input has a normal form and different
normal forms have different pages.  They are then those of the inputs at which a normal form first occurs.
Otherwise the failure is that of the first input that cannot be taken after those before it. -/
theorem collectDocuments_exact (base : Path) (inputs : List Path) (world : World) :
    ((∃ documents, (outcome (collectDocuments base inputs) world).1 = .ok documents) ↔
        ∃ relatives, inputs.map (world.files.normalForm base) = relatives.map .ok ∧
          PagesApart relatives) ∧
      (∀ documents, (outcome (collectDocuments base inputs) world).1 = .ok documents →
        ∃ relatives, inputs.map (world.files.normalForm base) = relatives.map .ok ∧
          documents = firsts (candidates base inputs relatives) ∧
          documents.Pairwise fun first second => first.page.components ≠ second.page.components) ∧
      ∀ failure, (outcome (collectDocuments base inputs) world).1 = .error failure →
        ∃ before input after relatives found, inputs = before ++ input :: after ∧
          Gathered world.files base before relatives found ∧
          Refuses world.files base found input failure := by
  unfold collectDocuments
  rcases collectFrom_cases (.nil world.files base) inputs rfl with
    ⟨relatives, documents, done, gathered⟩ |
    ⟨before, input, after, relatives, found, failure, rfl, gathered, refused, failed⟩
  · rw [done]
    refine ⟨⟨fun _ => ⟨relatives, gathered.normal, gathered.apart⟩, fun _ => ⟨documents, rfl⟩⟩, ?_, ?_⟩
    · rintro _ ⟨⟩
      exact ⟨relatives, gathered.normal, gathered.first, gathered.pages_pairwise⟩
    · rintro _ ⟨⟩
  · rw [failed]
    refine ⟨⟨?_, ?_⟩, ?_, ?_⟩
    · rintro ⟨_, ⟨⟩⟩
    · rintro ⟨all, normal, apart⟩
      exact absurd apart (gathered.not_refuses refused normal)
    · rintro _ ⟨⟩
    · rintro _ ⟨⟩
      exact ⟨before, input, after, relatives, found, rfl, gathered, refused⟩

/-- Two files of the same name, one of them in the base directory. -/
def worldWithTwins : World where
  files :=
    { entries :=
        [([Utf8.encode "x".toList], .file []), ([Utf8.encode "s".toList], .directory),
          ([Utf8.encode "s".toList, Utf8.encode "x".toList], .file [])],
      workingDirectory := some [] }

/-- The file in the base directory in two spellings, then its twin. -/
def twins : List Path :=
  [.ofText "x".toList, .ofText "./x".toList, .ofText "../x".toList]

/-- The second spelling is passed over, and the twin collides with the first. -/
theorem collectDocuments_exact_twins :
    (outcome (collectDocuments (.ofText "/s".toList) (twins.take 2)) worldWithTwins).1 =
        .ok [.make (.ofText "/s/x".toList) (.ofText "x".toList)] ∧
      (∃ relatives, (twins.take 2).map (worldWithTwins.files.normalForm (.ofText "/s".toList)) =
          relatives.map .ok ∧
        [Document.make (.ofText "/s/x".toList) (.ofText "x".toList)] =
          firsts (candidates (.ofText "/s".toList) (twins.take 2) relatives)) ∧
      (outcome (collectDocuments (.ofText "/s".toList) twins) worldWithTwins).1 =
        .error (.collision (.ofText "x".toList) (.ofText "../x".toList) (.ofText "x.html".toList)) ∧
      ∃ before input after relatives found, twins = before ++ input :: after ∧
        Gathered worldWithTwins.files (.ofText "/s".toList) before relatives found ∧
        Refuses worldWithTwins.files (.ofText "/s".toList) found input
          (.collision (.ofText "x".toList) (.ofText "../x".toList) (.ofText "x.html".toList)) := by
  have found : (outcome (collectDocuments (.ofText "/s".toList) (twins.take 2)) worldWithTwins).1 =
      .ok [.make (.ofText "/s/x".toList) (.ofText "x".toList)] := rfl
  have failed : (outcome (collectDocuments (.ofText "/s".toList) twins) worldWithTwins).1 =
      .error (.collision (.ofText "x".toList) (.ofText "../x".toList) (.ofText "x.html".toList)) := rfl
  rcases (collectDocuments_exact (.ofText "/s".toList) (twins.take 2) worldWithTwins).2.1 _ found with
    ⟨relatives, normal, first, _⟩
  exact ⟨found, ⟨relatives, normal, first⟩, failed,
    (collectDocuments_exact (.ofText "/s".toList) twins worldWithTwins).2.2 _ failed⟩

end Marginalia
