import Marginalia.Command.Parser
import Marginalia.Run.Basic

/-!
# The program

A call either runs and reports on the way, or lists sections.  What it prints and the code with which
it exits follow from the outcome; what it logs is shown according to a threshold, which is stricter for
a quiet call unless the environment sets it.
-/

namespace Marginalia.Command

/-- Which log entries are shown. -/
inductive Threshold where
  | silent
  | info
  | debug
  deriving DecidableEq, Repr

namespace Threshold

/-- Whether an entry of a level is shown. -/
def shows : Threshold → Level → Bool
  | silent, _ => false
  | info, .info => true
  | info, .debug => false
  | debug, _ => true

/-- The threshold that the name of a level sets.  Nothing that is logged is a warning or an error. -/
def ofName (name : Text) : Threshold :=
  let name := name.toLowerAscii
  if name = "info".toList then info
  else if name = "debug".toList ∨ name = "trace".toList then debug
  else silent

end Threshold

/-- The name of the level that a call sets. -/
def levelName (command : Command) : Text :=
  (if command.has .quiet then "warn" else "info").toList

/-- The threshold of a call; the environment has the last word. -/
def threshold (command : Command) (environment : Option Text) : Threshold :=
  .ofName (environment.getD command.levelName)

/-- A log entry as it is shown. -/
def logLine (entry : LogEntry) : Text :=
  let level := match entry.level with
    | .info => " INFO "
    | .debug => "DEBUG "
  level.toList ++ entry.message ++ ['\n']

variable {m : Type → Type} [Monad m] [Workspace m]

/-- Do what a call asks for, and give what it prints. -/
def execute (command : Command) : ExceptT Failure m Text := do
  if command.has .dumpSections then
    let listings ← listSections command.configuration
    match listingsJson listings with
    | .ok json => pure (json ++ ['\n'])
    | .error failure => throw failure
  else
    let reports ← run command.configuration
    report .info (summary reports)
    pure []

/-- How a call ends: the code with which it exits, what it prints, and what it prints as an error. -/
structure Ending where
  code : Nat
  output : Text := []
  errors : Text := []
  deriving DecidableEq, Repr

/-- The ending of a call that leads to no run. -/
def Stop.ending : Stop → Ending
  | wrong error => { code := 2, errors := error.message ++ ['\n'] }
  | help long => { code := 0, output := if long then longHelp else shortHelp }
  | version => { code := 0, output := versionText }

/-- The ending of a run. -/
def ending : Except Failure Text → Ending
  | .ok output => { code := 0, output := output }
  | .error failure => { code := 1, errors := "Error: ".toList ++ failure.message ++ ['\n'] }

end Marginalia.Command
