import OpcodeTable.Cli.Run
/-!
# The command line program

Reads the arguments and the `RUST_LOG` filter, then reads the dataset, writes the source text
and reports as `Cli.produce` and `Cli.conclude` say. Only reading, writing and printing happen
here. The exit code is 0 on success, 1 when the run fails and 2 on a usage error.
-/

namespace OpcodeTable.Cli

/-- The file error an operating-system error stands for. -/
def fileErrorOf : IO.Error → FileError
  | .noFileOrDirectory _ 2 _ => .notFound
  | .inappropriateType _ 21 _ => .isDirectory
  | .inappropriateType _ 20 _ => .notDirectory
  | .resourceExhausted _ 28 _ => .noSpace
  | .invalidArgument _ 36 _ => .nameTooLong
  | .alreadyExists _ c d | .invalidArgument _ c d | .permissionDenied _ c d
  | .resourceExhausted _ c d | .inappropriateType _ c d | .noSuchThing _ c d
  | .interrupted _ c d | .noFileOrDirectory _ c d => .other d c.toNat
  | .otherError c d | .resourceBusy c d | .resourceVanished c d | .unsupportedOperation c d
  | .hardwareFault c d | .unsatisfiedConstraints c d | .illegalOperation c d
  | .protocolError c d | .timeExpired c d => .other d c.toNat
  | .unexpectedEof => .other "failed to fill whole buffer" 0
  | .userError msg => .other msg 0

/-- Reads the dataset: whether the path exists, and what reading it gave. -/
def readInput (path : String) : IO (Bool × Except FileError ByteArray) := do
  try
    let bytes ← IO.FS.readBinFile path
    return (true, .ok bytes)
  catch e =>
    let f := fileErrorOf e
    return (f != .notFound && f != .notDirectory && f != .nameTooLong, .error f)

/-- Writes the text to the output file, or to standard output; the failure, if any. -/
def writeOutput (output : Option String) (text : String) : IO (Option FileError) := do
  try
    match output with
    | some path => IO.FS.writeBinFile path text.toUTF8
    | none =>
      let out ← IO.getStdout
      out.putStr text
      out.flush
    return none
  catch e => return some (fileErrorOf e)

/-- Prints an outcome and gives its exit code. -/
def report (o : Outcome) : IO UInt32 := do
  let out ← IO.getStdout
  let err ← IO.getStderr
  try
    out.putStr o.stdout
    out.flush
  catch _ => pure ()
  err.putStr o.stderr
  err.flush
  return o.status.toUInt32

/-- Runs the program with its arguments. -/
def runMain (args : List String) : IO UInt32 := do
  match Request.ofArgs args with
  | .help => report (shown helpText false)
  | .version => report (shown versionText false)
  | .usage e => report e.outcome
  | .run o =>
    match Filter.forRun o (← IO.getEnv "RUST_LOG") with
    | .error c => report (stoppedAt c)
    | .ok filter =>
      let (found, contents) ← readInput o.input
      let (events, result) := produce o found contents
      let log := filter.lines events
      match result with
      | .error r => report (failed log r)
      | .ok text =>
        let err ← IO.getStderr
        err.putStr log
        err.flush
        let failure ← writeOutput o.output text
        let outcome := conclude "" o.output text failure
        report { outcome with stdout := "" }

end OpcodeTable.Cli

/-- The program. -/
def main (args : List String) : IO UInt32 :=
  OpcodeTable.Cli.runMain args
