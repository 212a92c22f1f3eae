import Marginalia.Text.Basic

/-!
# Usage

How the program is called: the ways in which a call can be wrong, and the texts that explain it.
-/

namespace Marginalia.Command

/-- Why a call is wrong. -/
inductive UsageError where
  /-- No file is given. -/
  | missingFiles
  /-- There is no such option. -/
  | unknownOption
  /-- An option has no value, or one that it does not take. -/
  | invalidValue
  /-- A switch has a value. -/
  | unexpectedValue
  /-- Options exclude each other, or one is given twice. -/
  | conflict
  /-- The value of an option is not text. -/
  | notText
  deriving DecidableEq, Repr

/-- Why a call does not lead to a run. -/
inductive Stop where
  | wrong (error : UsageError)
  | help (long : Bool)
  | version
  deriving DecidableEq, Repr

/-- Lines as a text. -/
def unlines (lines : List String) : Text :=
  lines.flatMap fun line => line.toList ++ ['\n']

/-- The name and the version of the program. -/
def versionText : Text :=
  unlines ["sidedoc 0.1.0"]

/-- The full explanation of the options. -/
def longHelp : Text :=
  unlines
  ["Generates side-by-side HTML documentation from commented source files",
   "",
   "Usage: sidedoc [OPTIONS] <FILES>...",
   "",
   "Arguments:",
   "  <FILES>...",
   "          Source files to document",
   "",
   "Options:",
   "  -h, --help",
   "          Print help (see a summary with '-h')",
   "",
   "  -V, --version",
   "          Print version",
   "",
   "Output:",
   "  -o, --output <OUTPUT>",
   "          Directory the pages are written to",
   "          ",
   "          [default: docs]",
   "",
   "      --markdown <MARKDOWN>",
   "          Where comment Markdown is converted to HTML",
   "",
   "          Possible values:",
   "          - client: Converted in the browser by the page script",
   "          - server: Converted while generating",
   "          ",
   "          [default: client]",
   "",
   "      --stylesheet <URL>",
   "          Stylesheet URL linked from every page",
   "",
   "Source:",
   "      --prologue <REGEX>",
   "          Pattern stripped from the start of each file (repeatable, replaces the defaults)",
   "",
   "      --no-prologue",
   "          Keep shebang lines and opening tags",
   "",
   "Behavior:",
   "  -q, --quiet",
   "          Only report warnings and errors",
   "",
   "      --dry-run",
   "          Render everything but write no files",
   "",
   "      --dump-sections",
   "          Print the sections of each file as JSON instead of writing pages"]

/-- The options at a glance. -/
def shortHelp : Text :=
  unlines
  ["Generates side-by-side HTML documentation from commented source files",
   "",
   "Usage: sidedoc [OPTIONS] <FILES>...",
   "",
   "Arguments:",
   "  <FILES>...  Source files to document",
   "",
   "Options:",
   "  -h, --help     Print help (see more with '--help')",
   "  -V, --version  Print version",
   "",
   "Output:",
   "  -o, --output <OUTPUT>      Directory the pages are written to [default: docs]",
   "      --markdown <MARKDOWN>  Where comment Markdown is converted to HTML [default: client] [possible values: client, server]",
   "      --stylesheet <URL>     Stylesheet URL linked from every page",
   "",
   "Source:",
   "      --prologue <REGEX>  Pattern stripped from the start of each file (repeatable, replaces the defaults)",
   "      --no-prologue       Keep shebang lines and opening tags",
   "",
   "Behavior:",
   "  -q, --quiet          Only report warnings and errors",
   "      --dry-run        Render everything but write no files",
   "      --dump-sections  Print the sections of each file as JSON instead of writing pages"]

/-- A wrong call as it is reported. -/
def UsageError.message : UsageError → Text
  | missingFiles => "error: no files are given".toList
  | unknownOption => "error: there is no such option".toList
  | invalidValue => "error: an option has no value, or one that it does not take".toList
  | unexpectedValue => "error: a switch takes no value".toList
  | conflict => "error: options exclude each other or are repeated".toList
  | notText => "error: the value of an option is not valid UTF-8".toList

end Marginalia.Command
