import HtmlText.Command.Run

/-!
# The command

The command on real files: it reads the input that the arguments name, leaves the conversion to
`Settings.convert`, and writes the text and the report.

## Main definitions

* `main`: the command.
-/

namespace HtmlText

/-- The number of a system error, which may come with its sign changed. -/
def errorNumber (code : UInt32) : Nat := min code.toNat (0 - code).toNat

/-- Why the system refused a file. -/
def fileErrorOf : IO.Error → FileError
  | .noFileOrDirectory .. => .notFound
  | .inappropriateType _ code _ =>
    if errorNumber code = 20 then .notDirectory else .isDirectory
  | .invalidArgument file code details =>
    if errorNumber code = 36 then .nameTooLong
    else .other (toString (IO.Error.invalidArgument file code details))
  | .resourceExhausted file code details =>
    if errorNumber code = 28 then .noSpace
    else .other (toString (IO.Error.resourceExhausted file code details))
  | e => .other (toString e)

/-- Do something with a file, and keep the reason if the system refuses. -/
def attempt {α : Type} (act : IO α) : IO (Except FileError α) := do
  try
    return .ok (← act)
  catch e =>
    return .error (fileErrorOf e)

/-- Everything that a stream still holds. -/
partial def readAll (stream : IO.FS.Stream) (before : ByteArray) : IO ByteArray := do
  let bytes ← stream.read 65536
  if bytes.isEmpty then return before
  readAll stream (before ++ bytes)

/-- Read the input that settings name. -/
def Settings.readInput (s : Settings) : IO (Except FileError ByteArray) :=
  match s.inputFile? with
  | some name => attempt (IO.FS.readBinFile name)
  | none => do attempt (readAll (← IO.getStdin) ByteArray.empty)

/-- Write a file, and wait until it is written. -/
def writeFile (name : String) (bytes : ByteArray) : IO Unit :=
  IO.FS.withFile name .write fun file => do
    file.write bytes
    file.flush

/-- Write a text to where settings say. -/
def Settings.writeText (s : Settings) (text : String) : IO Unit :=
  match s.output with
  | some name => writeFile name text.toUTF8
  | none => do
    let output ← IO.getStdout
    output.putStr text
    output.flush

/-- Write lines of a report. -/
def writeReport (lines : List String) : IO Unit := do
  for line in lines do
    IO.eprintln line

/-- Say why a run fails. -/
def RunError.finish (e : RunError) : IO UInt32 := do
  writeReport e.report
  return 1

/-- Convert what settings name. -/
def Settings.execute (s : Settings) : IO UInt32 := do
  let (result, entries) := s.convert (← s.readInput)
  writeReport ((LogFilter.choose (← IO.getEnv "RUST_LOG") s.verbosity).lines entries)
  match result with
  | .error e => e.finish
  | .ok text =>
    match ← attempt (s.writeText (text ++ "\n")) with
    | .ok () => return 0
    | .error reason => (RunError.unwritable s.outputName reason).finish

/-- Do what is requested. -/
def Request.execute : Request → IO UInt32
  | .help => do
    IO.print helpText
    return 0
  | .version => do
    IO.print versionText
    return 0
  | .convert s => s.execute

end HtmlText

/-- Convert HTML to text. -/
def main (arguments : List String) : IO UInt32 :=
  match HtmlText.Request.ofArguments arguments with
  | .ok request => request.execute
  | .error e => do
    HtmlText.writeReport e.report
    return 2
