import Marginalia.Command.Program

/-!
# The command

The outer layer: a workspace that is the machine's own files, standard output and standard error.
Nothing is decided here.
-/

namespace Marginalia.Machine

/-- The actions of a call, which know what to show of the log. -/
abbrev Action := ReaderT Command.Threshold IO

/-- The fault that an error of the machine stands for. -/
def fault : IO.Error → Fault
  | .noFileOrDirectory _ _ _ => .notFound
  | .alreadyExists _ _ _ => .exists
  | .inappropriateType _ code details =>
    if code = 21 then .isDirectory
    else if code = 20 then .notDirectory
    else .other details.toList
  | error =>
    let message := toString error
    .other message.toList

/-- The name of a file for the machine, which takes only text. -/
def withName {α : Type} (path : Path) (act : String → IO α) : Action (Except Fault α) :=
  match Utf8.decode? path.bytes with
  | none => pure (.error (.other "file name is not valid UTF-8".toList))
  | some name =>
    if name.contains (Char.ofNat 0) then pure (.error .zeroByte)
    else do
      try
        let value ← act (String.ofList name)
        pure (.ok value)
      catch error => pure (.error (fault error))

/-- The path that a name given by the machine spells. -/
def pathOf (name : String) : Path :=
  .ofText name.toList

instance : Workspace Action where
  workingDirectory := withName (.ofText ".".toList) fun name => do
    return pathOf (← IO.FS.realPath name).toString
  canonicalize path := withName path fun name => do
    return pathOf (← IO.FS.realPath name).toString
  readFile path := withName path fun name => do
    return (← IO.FS.readBinFile name).toList
  makeDirectories path := withName path fun name => do
    if !name.isEmpty then IO.FS.createDirAll name
  writeFile path content := withName path fun name =>
    IO.FS.writeBinFile name ⟨content.toArray⟩
  log entry := fun threshold => do
    if threshold.shows entry.level then
      (← IO.getStderr).putStr (String.ofList (Command.logLine entry))

/-- The environment variable by which callers set what is shown of the log. -/
def levelVariable : String :=
  "RUST_LOG"

/-- Print how a call ends. -/
def finish (ending : Command.Ending) : IO UInt32 := do
  (← IO.getStdout).putStr (String.ofList ending.output)
  (← IO.getStderr).putStr (String.ofList ending.errors)
  return ending.code.toUInt32

end Marginalia.Machine

open Marginalia

/-- Read the words of a call, run it and report. -/
def main (words : List String) : IO UInt32 := do
  match Command.parse (words.map fun word => Utf8.encode word.toList) with
  | .error stop => Machine.finish stop.ending
  | .ok command =>
    let environment := (← IO.getEnv Machine.levelVariable).map String.toList
    let act : Machine.Action (Except Failure Text) := command.execute.run
    Machine.finish (Command.ending (← act.run (command.threshold environment)))
