import Mathlib.Data.List.Basic
import Marginalia.Command.Parser

/-!
# Elements of a call

An element of a call is a file, an option with its value, or a switch.  Here it is given by its long name, and
a value that is a word of its own does not begin with a hyphen.

The reader puts off its judgement, so the state between two words is not yet a command.  What it amounts to
is `Reading.settle`, and this is what an element changes: `Command.give` says how, without words, and
`Reading.words_element` that the words of the element do just that, whatever waits and whatever follows.
-/

namespace Marginalia.Command

/-- One element of a call.  The value of an option is attached to its name or is a word of its own. -/
inductive Element where
  | file (word : Bytes)
  | option (setting : Setting) (value : Bytes) (apart : Bool)
  | switch (given : Switch)

def Setting.name : Setting → String
  | output => "output"
  | markdown => "markdown"
  | stylesheet => "stylesheet"
  | prologue => "prologue"

def Switch.name : Switch → String
  | noPrologue => "no-prologue"
  | quiet => "quiet"
  | dryRun => "dry-run"
  | dumpSections => "dump-sections"

/-- A name with two hyphens before it, and what is attached to it. -/
def longWord (name : String) (attached : Option Bytes) : Bytes :=
  hyphen :: hyphen :: (bytesOf name ++ attached.elim [] (equalsSign :: ·))

namespace Element

def words : Element → List Bytes
  | file word => [word]
  | option setting value false => [longWord setting.name (some value)]
  | option setting value true => [longWord setting.name none, value]
  | switch given => [longWord given.name none]

/-- The element can be told from others when it is read. -/
def Readable : Element → Prop
  | file word => word.head? = some hyphen → word = [hyphen]
  | option _ value true => value ≠ [] ∧ value.head? ≠ some hyphen
  | _ => True

instance : DecidablePred Readable
  | file word => inferInstanceAs (Decidable (word.head? = some hyphen → word = [hyphen]))
  | option _ value true => inferInstanceAs (Decidable (value ≠ [] ∧ value.head? ≠ some hyphen))
  | option _ _ false => .isTrue trivial
  | switch _ => .isTrue trivial

def file? : Element → Option Bytes
  | file word => some word
  | _ => none

def value? (setting : Setting) : Element → Option Bytes
  | option given value _ => if given = setting then some value else none
  | _ => none

def switch? : Element → Option Switch
  | switch given => some given
  | _ => none

end Element

/-! ## Reading an element -/

/-- What an element adds to a command. -/
def give (command : Command) : Element → Except Stop Command
  | .file word => command.takeFiles [word]
  | .option setting value _ => command.take setting value
  | .switch given => command.flip given

theorem takeFiles_eq_ok_iff (command next : Command) (words : List Bytes) :
    command.takeFiles words = .ok next ↔
      (∀ word ∈ words, word ≠ []) ∧ { command with files := command.files ++ words.map Path.mk } = next := by
  have any_iff : words.any (·.isEmpty) = true ↔ ¬ ∀ word ∈ words, word ≠ [] := by simp
  unfold takeFiles
  by_cases named : ∀ word ∈ words, word ≠ []
  · rw [if_neg (fun unnamed => any_iff.mp unnamed named), Except.ok.injEq]
    exact (and_iff_right named).symm
  · rw [if_pos (any_iff.mpr named)]
    constructor
    · intro impossible
      cases impossible
    · intro both
      exact absurd both.1 named

theorem takeFiles_append {command middle next : Command} {first second : List Bytes}
    (taken : command.takeFiles first = .ok middle) (takenLater : middle.takeFiles second = .ok next) :
    command.takeFiles (first ++ second) = .ok next := by
  rcases (takeFiles_eq_ok_iff _ _ _).mp taken with ⟨named, rfl⟩
  rcases (takeFiles_eq_ok_iff _ _ _).mp takenLater with ⟨namedLater, rfl⟩
  refine (takeFiles_eq_ok_iff _ _ _).mpr ⟨List.forall_mem_append.mpr ⟨named, namedLater⟩, ?_⟩
  simp

/-- A name of an option, written out. -/
structure IsName (name : String) : Prop where
  ne_nil : bytesOf name ≠ []
  whole : equalsSign ∉ bytesOf name

theorem Setting.isName (setting : Setting) : IsName setting.name := by
  cases setting <;> exact ⟨by decide +kernel, by decide +kernel⟩

theorem Switch.isName (switch : Switch) : IsName switch.name := by
  cases switch <;> exact ⟨by decide +kernel, by decide +kernel⟩

theorem lookUp?_setting (setting : Setting) :
    lookUp? flagNames (bytesOf setting.name) = some (.setting setting) := by
  cases setting <;> decide +kernel

theorem lookUp?_switch (switch : Switch) :
    lookUp? flagNames (bytesOf switch.name) = some (.switch switch) := by
  cases switch <;> decide +kernel

namespace Reading

/-- A word with two hyphens before a name is taken apart at its first equals sign. -/
theorem words_longWord (reading : Reading) {name : String} (isName : IsName name)
    (attached : Option Bytes) (rest : List Bytes) :
    reading.words (longWord name attached :: rest) =
      (reading.long (bytesOf name) attached).bind (·.words rest) := by
  have notEnd : longWord name attached ≠ [hyphen, hyphen] := by
    simp [longWord, isName.ne_nil]
  have differs : ∀ byte ∈ bytesOf name, (byte != equalsSign) = true := by
    intro byte member
    apply bne_iff_ne.mpr
    rintro rfl
    exact isName.whole member
  have name_eq : (bytesOf name ++ attached.elim [] (equalsSign :: ·)).takeWhile (· != equalsSign) =
      bytesOf name := by
    rw [List.takeWhile_append_of_pos differs]
    cases attached <;> simp
  have word_eq : reading.word (longWord name attached) = reading.long (bytesOf name) attached := by
    simp only [longWord, word, if_true, name_eq, List.drop_left]
    cases attached <;> rfl
  rw [words, if_neg notEnd, word_eq]
  rfl

/-- A word that does not begin like an option. -/
theorem words_plain (reading : Reading) {bytes : Bytes} (plain : bytes.head? = some hyphen → bytes = [hyphen])
    (rest : List Bytes) :
    reading.words (bytes :: rest) = (reading.plain bytes).bind (·.words rest) := by
  have notEnd : bytes ≠ [hyphen, hyphen] := by
    rintro rfl
    cases plain rfl
  have word_eq : reading.word bytes = reading.plain bytes := by
    rcases bytes with _ | ⟨first, _ | ⟨second, more⟩⟩
    · rfl
    · rfl
    · have notHyphen : first ≠ hyphen := by
        rintro rfl
        cases plain rfl
      rw [word, if_neg notHyphen]
  rw [words, if_neg notEnd, word_eq]
  rfl

variable {reading : Reading} {command next : Command}

/-- A file joins the files that wait, or settles something else. -/
theorem file_of_settled (settled : reading.settle = .ok command) {word : Bytes}
    (given : command.takeFiles [word] = .ok next) :
    ∃ later : Reading, reading.file word = .ok later ∧ later.settle = .ok next := by
  rcases reading with ⟨early, waiting⟩
  cases waiting with
  | files words =>
    exact ⟨{ command := early, waiting := .files (words ++ [word]) }, rfl, takeFiles_append settled given⟩
  | forValue setting => cases settled
  | nothing =>
    cases settled
    exact ⟨{ command := early, waiting := .files [word] }, rfl, given⟩
  | withValue setting value =>
    refine ⟨{ command := command, waiting := .files [word] }, ?_, given⟩
    change (settle ⟨early, .withValue setting value⟩).bind _ = _
    rw [settled]
    rfl

/-- Nothing waits for a value. -/
theorem plain_of_settled (settled : reading.settle = .ok command) (word : Bytes) :
    reading.plain word = reading.file word := by
  rcases reading with ⟨early, waiting⟩
  cases waiting with
  | forValue setting => cases settled
  | _ => rfl

theorem long_setting (reading : Reading) (setting : Setting) (value : Bytes) :
    reading.long (bytesOf setting.name) (some value) = reading.takeNow setting value ∧
      reading.long (bytesOf setting.name) none = reading.await setting := by
  unfold long
  rw [lookUp?_setting]
  exact ⟨rfl, rfl⟩

theorem long_switch (reading : Reading) (switch : Switch) :
    reading.long (bytesOf switch.name) none = reading.flipNow switch := by
  unfold long
  rw [lookUp?_switch]

theorem takeNow_of_settled (settled : reading.settle = .ok command) {setting : Setting} {value : Bytes}
    (taken : command.take setting value = .ok next) :
    reading.takeNow setting value = .ok { command := next } := by
  rw [takeNow, settled]
  change (command.take setting value).bind _ = _
  rw [taken]
  rfl

theorem flipNow_of_settled (settled : reading.settle = .ok command) {switch : Switch}
    (flipped : command.flip switch = .ok next) :
    reading.flipNow switch = .ok { command := next } := by
  rw [flipNow, settled]
  change (command.flip switch).bind _ = _
  rw [flipped]
  rfl

/-- The words of an element do to what has been read what the element does to a command. -/
theorem words_element (settled : reading.settle = .ok command) {element : Element}
    (readable : element.Readable) (given : command.give element = .ok next) (rest : List Bytes) :
    ∃ later : Reading, reading.words (element.words ++ rest) = later.words rest ∧
      later.settle = .ok next := by
  cases element with
  | file word =>
    rcases file_of_settled settled given with ⟨later, read, laterSettled⟩
    refine ⟨later, ?_, laterSettled⟩
    rw [Element.words, List.singleton_append, words_plain reading readable,
      plain_of_settled settled, read]
    rfl
  | option setting value apart =>
    cases apart with
    | false =>
      refine ⟨{ command := next }, ?_, rfl⟩
      rw [Element.words, List.singleton_append, words_longWord reading setting.isName,
        (long_setting reading setting value).1, takeNow_of_settled settled given]
      rfl
    | true =>
      have plain : value.head? = some hyphen → value = [hyphen] := fun begins => absurd begins readable.2
      have awaits : reading.await setting = .ok { command := command, waiting := .forValue setting } := by
        rw [await, settled]
        rfl
      refine ⟨{ command := command, waiting := .withValue setting value }, ?_, given⟩
      rw [Element.words, List.cons_append, List.singleton_append,
        words_longWord reading setting.isName, (long_setting reading setting value).2, awaits]
      exact words_plain _ plain rest
  | switch switch =>
    refine ⟨{ command := next }, ?_, rfl⟩
    rw [Element.words, List.singleton_append, words_longWord reading switch.isName,
      long_switch, flipNow_of_settled settled given]
    rfl

end Reading

end Marginalia.Command
