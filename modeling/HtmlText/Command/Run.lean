import HtmlText.Command.Arguments
import HtmlText.Command.Files
import HtmlText.Command.Log
import HtmlText.Text.Lines

/-!
# A run of the command

A run reads its input, converts it and writes the text, or does nothing but say why not. What is
written depends on the arguments and the input only; how much is reported on the way depends on the
environment as well. What can be read and where a text goes is up to the host of the run, of which
nothing more is known here.

## Main definitions

* `RunError`: why a run fails, with its text `RunError.message`.
* `Settings.convert`: the conversion that settings ask for, with the entries to report.
* `RunResult`: exit code, output, report and files after a run.
* `Host`: what a run finds around it.
* `runOn`: a run from its arguments on.
* `Files.host`, `run`: a host where everything can be read and written that the files allow, and a
  run there.
-/

namespace HtmlText

/-- Why a run fails. -/
inductive RunError
  | unreadable (name : String) (reason : FileError)
  | malformed (e : Malformed)
  | unwritable (name : String) (reason : FileError)
deriving Repr, DecidableEq

/-- The text of the error. -/
def RunError.message : RunError → String
  | unreadable name reason => s!"failed to read {name}: {reason.message}"
  | malformed e =>
    s!"input is not well-formed HTML ({e.diagnostics.length} diagnostic(s));" ++
      " pass --lenient to render it anyway"
  | unwritable name reason => s!"failed to write {name}: {reason.message}"

namespace Settings

/-- The converter that settings ask for. -/
def converter (s : Settings) : Converter where
  options := { ruleWidth := s.ruleWidth, tabWidth := s.tabWidth, strict := !s.lenient }

/-- The input file. Without a name, and with a single dash, the standard input is read. -/
def inputFile? (s : Settings) : Option String := s.input.filter (· ≠ "-")

/-- How the input is named in messages. -/
def inputName (s : Settings) : String := s.inputFile?.getD "stdin"

/-- The conversion of an input that has been read, or of one that could not be, with the entries to
report. -/
def convert (s : Settings) (input : Except FileError ByteArray) :
    Except RunError String × List LogEntry :=
  match input.bind decodeText with
  | .error reason => (.error (.unreadable s.inputName reason), [])
  | .ok html =>
    let entries := s.converter.log html
    match s.converter.convert html with
    | .ok text =>
      (.ok text, entries ++
        [⟨LogFilter.program, .info, "rendered plain text",
          [("bytes", toString text.utf8ByteSize)]⟩])
    | .error e =>
      (.error (.malformed e), entries ++ e.diagnostics.map fun d =>
        ⟨LogFilter.program, .error, "parser diagnostic", [("diagnostic", d.text)]⟩)

end Settings

/-- The text of the version. -/
def versionText : String := "textdown 0.1.0\n"

/-- The text of the help. -/
def helpText : String := String.join (List.map (· ++ "\n") [
  "Render HTML as readable plain text",
  "",
  "Usage: textdown [OPTIONS] [INPUT]",
  "",
  "Arguments:",
  "  [INPUT]  Input file; `-` or nothing reads stdin",
  "",
  "Options:",
  "  -v, --verbose...               Increase verbosity (-v info, -vv debug)",
  "      --lenient                  Render input the parser had to repair instead of rejecting it",
  "      --rule-width <RULE_WIDTH>  Length of heading and horizontal rules [default: 79]",
  "      --tab-width <TAB_WIDTH>    Spaces per indent level [default: 4]",
  "  -o, --output <FILE>            Output file (default: stdout)",
  "  -h, --help                     Print help",
  "  -V, --version                  Print version"])

/-! ### Reports -/

/-- A text as lines of a report. -/
def reportLines (s : String) : List String := (lines s.toList).map String.ofList

/-- The report of a failed run. -/
def RunError.report (e : RunError) : List String := reportLines ("error: " ++ e.message)

/-- The report of arguments that cannot be followed. -/
def UsageError.report (e : UsageError) : List String :=
  reportLines e.message ++
    ["", "Usage: textdown [OPTIONS] [INPUT]", "", "For more information, try '--help'."]

/-! ### Runs -/

/-- What a run leaves behind. -/
structure RunResult where
  code : Nat
  output : String
  report : List String
  files : Files

/-- The outcome of a failed run. -/
def RunError.outcome (e : RunError) (report : List String) (files : Files) : RunResult :=
  ⟨1, "", report ++ e.report, files⟩

/-- The outcome of writing a text to its destination. -/
def Destination.outcome (d : Destination) (text : String) (report : List String)
    (files : Files) : RunResult :=
  match d with
  | .file parts => ⟨0, "", report, files.put parts (text ++ "\n").toUTF8⟩
  | .output => ⟨0, text ++ "\n", report, files⟩
  | .report => ⟨0, "", report ++ reportLines text, files⟩
  | .elsewhere => ⟨0, "", report, files⟩

/-- What a run finds around it. -/
structure Host where
  files : Files
  /-- What the standard input holds. -/
  input : Except FileError ByteArray
  /-- What the file with a name holds. -/
  read : String → Except FileError ByteArray
  /-- Why nothing can be written to the standard output. -/
  outputError : Option FileError
  /-- Where a text goes that is written under a name. -/
  destination : String → Except FileError Destination
  /-- A file that is written has a name. -/
  isNamed : ∀ name parts, destination name = .ok (.file parts) → FilePath.IsNamed parts

namespace Settings

/-- The input of a run, or why it cannot be read. -/
def source (s : Settings) (host : Host) : Except FileError ByteArray :=
  match s.inputFile? with
  | some name => host.read name
  | none => host.input

/-- Where the text goes, or why it cannot be written. -/
def destination (s : Settings) (host : Host) : Except FileError Destination :=
  match s.output with
  | some name => host.destination name
  | none =>
    match host.outputError with
    | some reason => .error reason
    | none => .ok .output

/-- How the place for the text is named in messages. -/
def outputName (s : Settings) : String := s.output.getD "stdout"

/-- The outcome of a conversion. -/
def run (s : Settings) (environment : Option String) (host : Host) : RunResult :=
  let (result, entries) := s.convert (s.source host)
  let report := (LogFilter.choose environment s.verbosity).lines entries
  match result with
  | .error e => e.outcome report host.files
  | .ok text =>
    match s.destination host with
    | .ok d => d.outcome text report host.files
    | .error reason => (RunError.unwritable s.outputName reason).outcome report host.files

end Settings

/-- The outcome of a run with the given arguments, environment and host. -/
def runOn (arguments : List String) (environment : Option String) (host : Host) : RunResult :=
  match Request.ofArguments arguments with
  | .error e => ⟨2, "", e.report, host.files⟩
  | .ok .help => ⟨0, helpText, [], host.files⟩
  | .ok .version => ⟨0, versionText, [], host.files⟩
  | .ok (.convert s) => s.run environment host

/-- A host with the given files and standard input, where what is there can be read and written. -/
def Files.host (files : Files) (input : ByteArray) : Host where
  files := files
  input := .ok input
  read := files.read input
  outputError := none
  destination := files.destination
  isNamed _ _ h := isNamed_of_destination h

/-- The outcome of a run with the given arguments, environment, standard input and files. -/
def run (arguments : List String) (environment : Option String) (input : ByteArray)
    (files : Files) : RunResult :=
  runOn arguments environment (files.host input)

end HtmlText
