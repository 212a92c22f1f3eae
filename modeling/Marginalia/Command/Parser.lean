import Marginalia.Command.Usage
import Marginalia.Run.Configuration

/-!
# Reading the command line

The words of a call are read from left to right.  An option waits for its value, and files wait until
something else comes: what waits is judged when the next option is recognised or when the words end.
An unknown option, and a switch with a value, end the reading before anything that waits is judged.

Words are bytes, because file names are; only options that take text ask for valid text.
-/

namespace Marginalia

namespace Command

/-- The options that take a value. -/
inductive Setting where
  | output
  | markdown
  | stylesheet
  | prologue
  deriving DecidableEq, Repr

/-- The options that take none. -/
inductive Switch where
  | noPrologue
  | quiet
  | dryRun
  | dumpSections
  deriving DecidableEq, Repr

/-- What the name of an option stands for. -/
inductive Flag where
  | setting (setting : Setting)
  | switch (switch : Switch)
  | help
  | version
  deriving DecidableEq, Repr

/-- The names of options. -/
def flagNames : List (String × Flag) :=
  [("output", .setting .output), ("markdown", .setting .markdown),
   ("stylesheet", .setting .stylesheet), ("prologue", .setting .prologue),
   ("no-prologue", .switch .noPrologue), ("quiet", .switch .quiet), ("dry-run", .switch .dryRun),
   ("dump-sections", .switch .dumpSections), ("help", .help), ("version", .version)]

/-- The letters of options. -/
def flagLetters : List (String × Flag) :=
  [("o", .setting .output), ("q", .switch .quiet), ("h", .help), ("V", .version)]

/-- The bytes of a fixed text. -/
def bytesOf (text : String) : Bytes :=
  Utf8.encode text.toList

/-- The option that a list of names gives to a name. -/
def lookUp? (names : List (String × Flag)) (name : Bytes) : Option Flag :=
  (names.find? fun entry => bytesOf entry.1 == name).map (·.2)

/-- The hyphen, which begins options. -/
def hyphen : UInt8 := 0x2D

/-- The equals sign, which attaches values. -/
def equalsSign : UInt8 := 0x3D

end Command

/-- What a call asks for, so far as it says. -/
structure Command where
  files : List Path := []
  output : Option Path := none
  prose : Option Html.ProseMode := none
  stylesheet : Option Text := none
  patterns : List Text := []
  switches : List Command.Switch := []
  deriving DecidableEq, Repr

namespace Command

/-- Whether a switch is given. -/
def has (command : Command) (switch : Switch) : Bool :=
  command.switches.contains switch

/-- A wrong call. -/
def wrong {α : Type} (error : UsageError) : Except Stop α :=
  .error (.wrong error)

/-- Take a value that must be text. -/
def textValue (value : Bytes) : Except Stop Text :=
  match Utf8.decode? value with
  | some text => .ok text
  | none => wrong .notText

/-- Take the value of an option.  Only patterns can be given more than once. -/
def take (command : Command) (setting : Setting) (value : Bytes) : Except Stop Command :=
  match setting with
  | .output =>
    if command.output.isSome then wrong .conflict
    else if value.isEmpty then wrong .invalidValue
    else .ok { command with output := some ⟨value⟩ }
  | .markdown =>
    if command.prose.isSome then wrong .conflict
    else if value = bytesOf "client" then .ok { command with prose := some .client }
    else if value = bytesOf "server" then .ok { command with prose := some .server }
    else wrong .invalidValue
  | .stylesheet =>
    if command.stylesheet.isSome then wrong .conflict
    else (textValue value).map fun text => { command with stylesheet := some text }
  | .prologue =>
    (textValue value).map fun text => { command with patterns := command.patterns ++ [text] }

/-- Take a switch, which can be given once. -/
def flip (command : Command) (switch : Switch) : Except Stop Command :=
  if command.has switch then wrong .conflict
  else .ok { command with switches := command.switches ++ [switch] }

/-- Take files, which must have names. -/
def takeFiles (command : Command) (words : List Bytes) : Except Stop Command :=
  if words.any (·.isEmpty) then wrong .invalidValue
  else .ok { command with files := command.files ++ words.map Path.mk }

/-- What has been read and not yet been judged. -/
inductive Waiting where
  | nothing
  /-- An option that still needs its value. -/
  | forValue (setting : Setting)
  /-- An option and the word after it. -/
  | withValue (setting : Setting) (value : Bytes)
  /-- Files that stand one after another. -/
  | files (words : List Bytes)
  deriving DecidableEq, Repr

/-- How far a call has been read. -/
structure Reading where
  command : Command := {}
  waiting : Waiting := .nothing
  deriving DecidableEq, Repr

namespace Reading

/-- Judge what waits. -/
def settle (reading : Reading) : Except Stop Command :=
  match reading.waiting with
  | .nothing => .ok reading.command
  | .forValue _ => wrong .invalidValue
  | .withValue setting value => reading.command.take setting value
  | .files words => reading.command.takeFiles words

/-- Judge what waits, then an option with its value. -/
def takeNow (reading : Reading) (setting : Setting) (value : Bytes) : Except Stop Reading := do
  let command ← reading.settle
  let command ← command.take setting value
  pure { command := command }

/-- Judge what waits, then wait for the value of an option. -/
def await (reading : Reading) (setting : Setting) : Except Stop Reading := do
  let command ← reading.settle
  pure { command := command, waiting := .forValue setting }

/-- Judge what waits, then a switch. -/
def flipNow (reading : Reading) (switch : Switch) : Except Stop Reading := do
  let command ← reading.settle
  let command ← command.flip switch
  pure { command := command }

/-- Judge what waits, then stop. -/
def stopWith {α : Type} (reading : Reading) (stop : Stop) : Except Stop α := do
  let _ ← reading.settle
  throw stop

/-- Read a file. -/
def file (reading : Reading) (word : Bytes) : Except Stop Reading :=
  match reading.waiting with
  | .files words => .ok { reading with waiting := .files (words ++ [word]) }
  | _ => do
    let command ← reading.settle
    pure { command := command, waiting := .files [word] }

/-- Read an option given by name, with the value attached to it. -/
def long (reading : Reading) (name : Bytes) (attached : Option Bytes) : Except Stop Reading :=
  match lookUp? flagNames name, attached with
  | none, _ => wrong .unknownOption
  | some (.setting setting), some value => reading.takeNow setting value
  | some (.setting setting), none => reading.await setting
  | some _, some _ => wrong .unexpectedValue
  | some (.switch switch), none => reading.flipNow switch
  | some .help, none => reading.stopWith (.help true)
  | some .version, none => reading.stopWith .version

/-- Read options given by letters.  What follows the letter of an option that takes a value is that
value, without an equals sign before it. -/
def letters (reading : Reading) : Bytes → Except Stop Reading
  | [] => .ok reading
  | letter :: rest =>
    match lookUp? flagLetters [letter] with
    | none => wrong .unknownOption
    | some (.setting setting) =>
      match rest with
      | [] => reading.await setting
      | first :: more => reading.takeNow setting (if first = equalsSign then more else first :: more)
    | some (.switch switch) => do
      let reading ← reading.flipNow switch
      reading.letters rest
    | some .help => reading.stopWith (.help false)
    | some .version => reading.stopWith .version

/-- Read a word that is no option. -/
def plain (reading : Reading) (word : Bytes) : Except Stop Reading :=
  match reading.waiting with
  | .forValue setting => .ok { reading with waiting := .withValue setting word }
  | _ => reading.file word

/-- Read a word.  A single hyphen is no option. -/
def word (reading : Reading) (bytes : Bytes) : Except Stop Reading :=
  match bytes with
  | first :: second :: rest =>
    if first = hyphen then
      if second = hyphen then
        let name := rest.takeWhile (· != equalsSign)
        reading.long name (rest.drop name.length).tail?
      else reading.letters (second :: rest)
    else reading.plain bytes
  | _ => reading.plain bytes

/-- Read words.  After two hyphens there are only files. -/
def words (reading : Reading) : List Bytes → Except Stop Reading
  | [] => .ok reading
  | bytes :: rest =>
    if bytes = [hyphen, hyphen] then rest.foldlM file reading
    else do
      let reading ← reading.word bytes
      reading.words rest

end Reading

/-- Read the words of a call. -/
def parse (words : List Bytes) : Except Stop Command := do
  let reading ← Reading.words {} words
  let command ← reading.settle
  if !command.patterns.isEmpty && command.has .noPrologue then wrong .conflict
  else if command.files.isEmpty then wrong .missingFiles
  else pure command

/-- The prologue that a call chooses. -/
def prologueChoice (command : Command) : PrologueChoice :=
  if command.has .noPrologue then .none
  else if command.patterns.isEmpty then .builtin
  else .custom command.patterns

/-- The configuration that a call asks for; what it does not say is as it is by default. -/
def configuration (command : Command) : Configuration :=
  let standard : Configuration := {}
  { inputs := command.files
    output := command.output.getD standard.output
    base := none
    prologue := command.prologueChoice
    prose := command.prose.getD standard.prose
    stylesheet := command.stylesheet
    dryRun := command.has .dryRun }

end Command

end Marginalia
