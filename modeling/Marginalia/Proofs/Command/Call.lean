import Marginalia.Proofs.Command.Element
import Marginalia.Proofs.Text.Utf8

/-!
# Calls that express settings

A *request* is what somebody wants from the program, and a call is how it is written: a list of elements in
any order, and possibly files behind two hyphens.  Every way to write a request is read as that request.

Each element that is read does to a command what it would do without words.  What remains is a matter of
elements, of which none is given twice: `Lacks` says what of the request is still to be given.

A file that begins with a hyphen can stand behind the two hyphens only, the single hyphen excepted.
-/

namespace Marginalia.Command

/-! ## Requests and how they are written -/

/-- What somebody wants from the program. -/
structure Request where
  files : List Bytes
  output : Option Bytes
  prose : Option Html.ProseMode
  stylesheet : Option Text
  /-- The patterns of the prologue, or none if the source is to be kept whole. -/
  patterns : Option (List Text)
  quiet : Bool
  dryRun : Bool
  dumpSections : Bool
  files_ne_nil : files ≠ []
  file_ne_nil : ∀ word ∈ files, word ≠ []
  output_ne_nil : ∀ word ∈ output, word ≠ []

/-- The word for a way to format prose. -/
def modeWord : Html.ProseMode → Bytes
  | .client => bytesOf "client"
  | .server => bytesOf "server"

/-- The words of a call.  Where there is an ending, it stands behind two hyphens. -/
def callWords (elements : List Element) : (ending : Option (List Bytes)) → List Bytes
  | none => elements.flatMap Element.words
  | some files => elements.flatMap Element.words ++ [hyphen, hyphen] :: files

namespace Request

/-- The words that the request has as values of an option. -/
def values (request : Request) : Setting → List Bytes
  | .output => request.output.toList
  | .markdown => request.prose.toList.map modeWord
  | .stylesheet => request.stylesheet.toList.map Utf8.encode
  | .prologue => (request.patterns.getD []).map Utf8.encode

def has (request : Request) : Switch → Bool
  | .noPrologue => request.patterns.isNone
  | .quiet => request.quiet
  | .dryRun => request.dryRun
  | .dumpSections => request.dumpSections

/-- The elements, with further files after them, are the request in some order.  The order of the files is
kept, and so is that of the values of one option. -/
structure WrittenAs (request : Request) (elements : List Element) (more : List Bytes) : Prop where
  readable : ∀ element ∈ elements, element.Readable
  files : elements.filterMap Element.file? ++ more = request.files
  values : ∀ setting, elements.filterMap (Element.value? setting) = request.values setting
  switches : ∀ switch,
    (elements.filterMap Element.switch?).count switch = if request.has switch then 1 else 0

def prologueChoice (request : Request) : PrologueChoice :=
  match request.patterns with
  | none => .none
  | some [] => .builtin
  | some patterns => .custom patterns

/-- The configuration of a request, with the standard values where it says nothing. -/
def configuration (request : Request) : Configuration where
  inputs := request.files.map Path.mk
  output := (request.output.map Path.mk).getD (.ofText "docs".toList)
  base := none
  prologue := request.prologueChoice
  prose := request.prose.getD .client
  stylesheet := request.stylesheet
  dryRun := request.dryRun

end Request

/-! ## What is still to be given -/

/-- The words that a command has as values of an option. -/
def values (command : Command) : Setting → List Bytes
  | .output => command.output.toList.map Path.bytes
  | .markdown => command.prose.toList.map modeWord
  | .stylesheet => command.stylesheet.toList.map Utf8.encode
  | .prologue => command.patterns.map Utf8.encode

/-- The elements are what the command lacks of the request. -/
structure Lacks (request : Request) (command : Command) (elements : List Element) : Prop where
  files : command.files ++ (elements.filterMap Element.file?).map Path.mk = request.files.map Path.mk
  values : ∀ setting,
    command.values setting ++ elements.filterMap (Element.value? setting) = request.values setting
  switches : ∀ switch,
    command.switches.count switch + (elements.filterMap Element.switch?).count switch =
      if request.has switch then 1 else 0

variable {request : Request} {command : Command}

theorem textValue_encode (text : Text) : textValue (Utf8.encode text) = .ok text := by
  rw [textValue, (Utf8.decode?_eq_some_iff _ text).mpr rfl]

/-- An option with one value at most has not been given as long as its value is lacking. -/
theorem none_of_lacking {α β : Type} {given : Option α} {wanted : Option β} {spell : α → Bytes}
    {word : β → Bytes} {value : Bytes} {rest : List Bytes}
    (lacking : given.toList.map spell ++ value :: rest = wanted.toList.map word) :
    given = none ∧ ∃ choice, wanted = some choice ∧ word choice = value := by
  cases wanted with
  | none => simp at lacking
  | some choice =>
    cases given with
    | none =>
      rcases List.cons.inj lacking with ⟨same, -⟩
      exact ⟨rfl, choice, rfl, same.symm⟩
    | some present => simp at lacking

/-- A value that the request has is taken, and nothing else changes. -/
theorem take_of_values {setting : Setting} {value : Bytes} {rest : List Bytes}
    (lacking : command.values setting ++ value :: rest = request.values setting) :
    ∃ next, command.take setting value = .ok next ∧ next.files = command.files ∧
      next.switches = command.switches ∧
      ∀ other, next.values other = command.values other ++ if setting = other then [value] else [] := by
  cases setting with
  | output =>
    rw [values, Request.values, ← List.map_id request.output.toList] at lacking
    rcases none_of_lacking lacking with ⟨absent, path, wanted, rfl⟩
    have named : path.isEmpty = false := by simpa using request.output_ne_nil path wanted
    refine ⟨{ command with output := some ⟨path⟩ }, ?_, rfl, rfl, ?_⟩
    · simp [take, absent, named]
    · intro other
      cases other <;> simp [values, absent]
  | markdown =>
    rcases none_of_lacking lacking with ⟨absent, mode, wanted, rfl⟩
    refine ⟨{ command with prose := some mode }, ?_, rfl, rfl, ?_⟩
    · have differ : bytesOf "server" ≠ bytesOf "client" := by decide +kernel
      cases mode <;> simp [take, absent, modeWord, differ]
    · intro other
      cases other <;> simp [values, absent]
  | stylesheet =>
    rcases none_of_lacking lacking with ⟨absent, text, wanted, rfl⟩
    refine ⟨{ command with stylesheet := some text }, ?_, rfl, rfl, ?_⟩
    · simp only [take, absent, textValue_encode]
      rfl
    · intro other
      cases other <;> simp [values, absent]
  | prologue =>
    have member : value ∈ request.values .prologue := lacking ▸ List.mem_append_right _ List.mem_cons_self
    rcases List.mem_map.mp member with ⟨text, -, rfl⟩
    refine ⟨{ command with patterns := command.patterns ++ [text] }, ?_, rfl, rfl, ?_⟩
    · rw [take, textValue_encode]
      rfl
    · intro other
      cases other <;> simp [values]

/-- One element less is lacking once it is given. -/
theorem Lacks.give {element : Element} {elements : List Element}
    (lacks : Lacks request command (element :: elements)) :
    ∃ next, command.give element = .ok next ∧ Lacks request next elements := by
  cases element with
  | file word =>
    have files := lacks.files
    simp only [List.filterMap_cons, Element.file?, List.map_cons] at files
    have member : Path.mk word ∈ request.files.map Path.mk :=
      files ▸ List.mem_append_right _ List.mem_cons_self
    have named : word ≠ [] := by
      rcases List.mem_map.mp member with ⟨same, isFile, equal⟩
      cases equal
      exact request.file_ne_nil _ isFile
    refine ⟨{ command with files := command.files ++ [Path.mk word] }, ?_, ?_⟩
    · exact (takeFiles_eq_ok_iff _ _ _).mpr ⟨by simpa using named, rfl⟩
    · exact ⟨by simpa using files, lacks.values, lacks.switches⟩
  | option setting value apart =>
    have lacking := lacks.values setting
    simp only [List.filterMap_cons, Element.value?, if_true] at lacking
    rcases take_of_values lacking with ⟨next, taken, sameFiles, sameSwitches, nextValues⟩
    refine ⟨next, taken, sameFiles ▸ lacks.files, ?_, sameSwitches ▸ lacks.switches⟩
    intro other
    have before := lacks.values other
    rw [List.filterMap_cons] at before
    rw [nextValues]
    by_cases same : setting = other
    · simpa [Element.value?, same] using before
    · simpa [Element.value?, same] using before
  | switch switch =>
    have count := lacks.switches switch
    simp only [List.filterMap_cons, Element.switch?, List.count_cons_self] at count
    have unset : command.switches.count switch = 0 := by split at count <;> omega
    have absent : command.has switch = false := by
      rw [has, List.contains_eq_mem]
      simpa using List.count_eq_zero.mp unset
    refine ⟨{ command with switches := command.switches ++ [switch] }, ?_, lacks.files, lacks.values, ?_⟩
    · change command.flip switch = _
      rw [flip, absent]
      rfl
    · intro other
      have before := lacks.switches other
      rw [List.filterMap_cons, Element.switch?, List.count_cons] at before
      rw [List.count_append, List.count_singleton, ← before]
      omega

/-- Readable elements leave a reading that settles to a command with them. -/
theorem Lacks.words {elements more : List Element} (lacks : Lacks request command (elements ++ more))
    (readable : ∀ element ∈ elements, element.Readable) {reading : Reading}
    (settled : reading.settle = .ok command) (rest : List Bytes) :
    ∃ (later : Reading) (next : Command),
      reading.words (elements.flatMap Element.words ++ rest) = later.words rest ∧
        later.settle = .ok next ∧ Lacks request next more := by
  induction elements generalizing reading command with
  | nil => exact ⟨reading, command, rfl, settled, lacks⟩
  | cons element elements ih =>
    rcases List.forall_mem_cons.mp readable with ⟨first, others⟩
    rcases lacks.give with ⟨given, gives, fewer⟩
    rcases Reading.words_element settled first gives (elements.flatMap Element.words ++ rest) with
      ⟨middle, read, middleSettled⟩
    rcases ih fewer others middleSettled with ⟨later, next, readLater, laterSettled, lacksLater⟩
    refine ⟨later, next, ?_, laterSettled, lacksLater⟩
    rw [List.flatMap_cons, List.append_assoc, read, readLater]

/-- Behind the two hyphens every word is a file. -/
theorem Lacks.files_read {words : List Bytes} (lacks : Lacks request command (words.map .file))
    {reading : Reading} (settled : reading.settle = .ok command) :
    ∃ (later : Reading) (next : Command),
      words.foldlM Reading.file reading = .ok later ∧ later.settle = .ok next ∧ Lacks request next [] := by
  induction words generalizing reading command with
  | nil => exact ⟨reading, command, rfl, settled, lacks⟩
  | cons word words ih =>
    rcases lacks.give with ⟨given, gives, fewer⟩
    rcases Reading.file_of_settled settled gives with ⟨middle, read, middleSettled⟩
    rcases ih fewer middleSettled with ⟨later, next, readLater, laterSettled, lacksLater⟩
    refine ⟨later, next, ?_, laterSettled, lacksLater⟩
    rw [List.foldlM_cons, read]
    exact readLater

theorem Lacks.of_writtenAs {elements : List Element} {more : List Bytes}
    (written : request.WrittenAs elements more) :
    Lacks request {} (elements ++ more.map .file) where
  files := by
    have none_else : (more.map Element.file).filterMap Element.file? = more := by
      simp [List.filterMap_map, Function.comp_def, Element.file?]
    rw [List.filterMap_append, none_else, written.files]
    rfl
  values := by
    intro setting
    have none_given : (more.map Element.file).filterMap (Element.value? setting) = [] := by
      simp [List.filterMap_map, Function.comp_def, Element.value?]
    rw [List.filterMap_append, none_given, List.append_nil, written.values]
    cases setting <;> rfl
  switches := by
    intro switch
    have none_given : (more.map Element.file).filterMap Element.switch? = [] := by
      simp [List.filterMap_map, Function.comp_def, Element.switch?]
    rw [List.filterMap_append, none_given, List.append_nil, written.switches]
    simp

/-! ## Commands that lack nothing -/

theorem modeWord_injective : Function.Injective modeWord := by
  have differ : modeWord .server ≠ modeWord .client := by decide +kernel
  intro first second same
  cases first with
  | client =>
    cases second with
    | client => rfl
    | server => exact absurd same.symm differ
  | server =>
    cases second with
    | client => exact absurd same differ
    | server => rfl

theorem toList_map_inj {α : Type} {word : α → Bytes} (injective : Function.Injective word)
    {first second : Option α} (same : first.toList.map word = second.toList.map word) : first = second := by
  cases first <;> cases second <;> simp_all [injective.eq_iff]

section

variable (lacks : Lacks request command [])

include lacks

theorem Lacks.files_eq : command.files = request.files.map Path.mk := by
  simpa using lacks.files

theorem Lacks.values_eq (setting : Setting) : command.values setting = request.values setting := by
  simpa using lacks.values setting

theorem Lacks.has_eq (switch : Switch) : command.has switch = request.has switch := by
  have count := lacks.switches switch
  rw [List.filterMap_nil, List.count_nil, Nat.add_zero] at count
  rw [has, List.contains_eq_mem]
  cases wanted : request.has switch with
  | true =>
    have once : command.switches.count switch = 1 := by rw [count, wanted]; rfl
    exact decide_eq_true (List.count_pos_iff.mp (by omega))
  | false =>
    have never : command.switches.count switch = 0 := by rw [count, wanted]; rfl
    exact decide_eq_false (List.count_eq_zero.mp never)

theorem Lacks.patterns_eq : command.patterns = request.patterns.getD [] :=
  List.map_injective_iff.mpr Utf8.encode_injective (lacks.values_eq .prologue)

theorem Lacks.output_eq : command.output = request.output.map Path.mk := by
  have same : command.output.toList.map Path.bytes = (request.output.map Path.mk).toList.map Path.bytes := by
    rw [show command.output.toList.map Path.bytes = request.output.toList from lacks.values_eq .output]
    cases request.output <;> rfl
  refine toList_map_inj ?_ same
  intro first second equal
  exact congrArg Path.mk equal

theorem Lacks.prologueChoice_eq : command.prologueChoice = request.prologueChoice := by
  have without : command.has .noPrologue = request.patterns.isNone := lacks.has_eq .noPrologue
  rw [prologueChoice, Request.prologueChoice, without, lacks.patterns_eq]
  rcases request.patterns with _ | _ | ⟨first, more⟩ <;> rfl

theorem Lacks.configuration_eq : command.configuration = request.configuration := by
  have prose_eq : command.prose = request.prose :=
    toList_map_inj modeWord_injective (lacks.values_eq .markdown)
  have stylesheet_eq : command.stylesheet = request.stylesheet :=
    toList_map_inj Utf8.encode_injective (lacks.values_eq .stylesheet)
  have dryRun_eq : command.has .dryRun = request.dryRun := lacks.has_eq .dryRun
  rw [configuration, Request.configuration, lacks.files_eq, lacks.output_eq, lacks.prologueChoice_eq,
    prose_eq, stylesheet_eq, dryRun_eq]

end

/-- A call is read to its end, and then nothing of the request is lacking. -/
theorem words_callWords {elements : List Element} {ending : Option (List Bytes)}
    (written : request.WrittenAs elements (ending.getD [])) :
    ∃ (reading : Reading) (command : Command),
      Reading.words {} (callWords elements ending) = .ok reading ∧ reading.settle = .ok command ∧
        Lacks request command [] := by
  have lacks := Lacks.of_writtenAs written
  have settled : ({} : Reading).settle = .ok {} := rfl
  cases ending with
  | none =>
    rcases lacks.words written.readable settled [] with ⟨later, next, read, laterSettled, lacksLater⟩
    rw [List.append_nil] at read
    exact ⟨later, next, read, laterSettled, lacksLater⟩
  | some files =>
    rcases lacks.words written.readable settled ([hyphen, hyphen] :: files) with
      ⟨middle, given, read, middleSettled, fewer⟩
    rcases fewer.files_read middleSettled with ⟨later, next, readLater, laterSettled, lacksLater⟩
    refine ⟨later, next, ?_, laterSettled, lacksLater⟩
    rw [callWords, read, Reading.words, if_pos rfl]
    exact readLater

/-- However a request is written, reading the words of the call gives what is asked for. -/
theorem parse_callWords (request : Request) (elements : List Element) (ending : Option (List Bytes))
    (written : request.WrittenAs elements (ending.getD [])) :
    ∃ command, parse (callWords elements ending) = .ok command ∧
      command.configuration = request.configuration ∧
      command.has .quiet = request.quiet ∧ command.has .dumpSections = request.dumpSections := by
  rcases words_callWords written with ⟨reading, command, read, settled, lacks⟩
  have compatible : (!command.patterns.isEmpty && command.has .noPrologue) = false := by
    rw [lacks.patterns_eq, lacks.has_eq, Request.has]
    cases request.patterns <;> simp
  have nonempty : command.files.isEmpty = false := by
    rw [lacks.files_eq]
    simpa using request.files_ne_nil
  refine ⟨command, ?_, lacks.configuration_eq, lacks.has_eq .quiet, lacks.has_eq .dumpSections⟩
  rw [parse, read]
  change reading.settle.bind _ = _
  rw [settled]
  change (if (!command.patterns.isEmpty && command.has .noPrologue) = true then _
    else if command.files.isEmpty = true then _ else _) = _
  rw [compatible, nonempty]
  rfl

/-- A request with a value that looks like an option, an empty text, a pattern with an equals sign, a file that
is not text and one that looks like the end of the options. -/
def intricateRequest : Request where
  files := [[0xFF], [hyphen], [hyphen, hyphen]]
  output := some (bytesOf "-o")
  prose := some .server
  stylesheet := some []
  patterns := some ["a=b".toList, "--".toList]
  quiet := true
  dryRun := false
  dumpSections := false
  files_ne_nil := by decide
  file_ne_nil := by decide
  output_ne_nil := by decide +kernel

def intricateCall : List Element :=
  [.option .prologue (bytesOf "a=b") true, .file [0xFF], .option .output (bytesOf "-o") false,
    .option .markdown (bytesOf "server") true, .switch .quiet, .file [hyphen],
    .option .stylesheet [] false, .option .prologue (bytesOf "--") false]

theorem parse_callWords_intricate :
    intricateRequest.WrittenAs intricateCall [[hyphen, hyphen]] ∧
      ∃ command, parse (callWords intricateCall (some [[hyphen, hyphen]])) = .ok command ∧
        command.configuration = intricateRequest.configuration ∧
        command.has .quiet = true ∧ command.has .dumpSections = false := by
  have written : intricateRequest.WrittenAs intricateCall [[hyphen, hyphen]] := by
    refine ⟨by decide +kernel, by decide +kernel, ?_, ?_⟩
    · intro setting
      cases setting <;> decide +kernel
    · intro switch
      cases switch <;> decide +kernel
  exact ⟨written, parse_callWords intricateRequest intricateCall (some [[hyphen, hyphen]]) written⟩

end Marginalia.Command
