import Spreadsheet.CommandLine

/-!
The program, with the arguments, the standard input and the files of the operating
system. What it does is decided by `Invocation.ofArguments`, `Options.start` and
`Session.execute`; here lines are answered as they are typed.
-/

namespace Spreadsheet.Program

/-! ### Files -/

/-- The number of an error as the operating system gives it; some reports have it
negated. -/
def errorNumber (code : UInt32) : Nat :=
  if Nat.pow 2 31 ≤ code.toNat then Nat.pow 2 32 - code.toNat else code.toNat

/-- The fault that a report of the operating system stands for. -/
def fileFault : IO.Error → FileFault
  | .noFileOrDirectory _ _ _ => .missing
  | .inappropriateType _ code _ => if errorNumber code = 20 then .notDirectory else .isDirectory
  | .invalidArgument _ code _ => if errorNumber code = 36 then .nameTooLong else .zeroInName
  | .permissionDenied _ _ _ => .other "Permission denied (os error 13)"
  | report => .other (toString report)

/-- Runs a file operation and keeps its failure. -/
def attempt {α : Type} (action : IO α) : IO (Except FileFault α) := do
  match ← action.toBaseIO with
  | .ok result => return .ok result
  | .error report => return .error (fileFault report)

/-- Files of the operating system. -/
instance : FileAccess IO where
  read path := attempt (IO.FS.readBinFile path)
  write path content := attempt (IO.FS.writeBinFile path content)
  size path := do
    match ← attempt (IO.FS.readBinFile path) with
    | .ok content => return .ok content.size
    | .error .isDirectory => return .ok 0
    | .error fault => return .error fault

/-- The user's settings file, if the environment tells where settings are kept. -/
def userFile : IO (Option String) := do
  let name := "/tabula/config.toml"
  let folder := (← IO.getEnv "XDG_CONFIG_HOME").filter (·.startsWith "/")
  let home := (← IO.getEnv "HOME").map (· ++ "/.config")
  return (folder.or home).map (· ++ name)

/-! ### Conversation -/

/-- The rest of a line that is typed, with its line feed; nothing at the end of the
input. -/
partial def readLine (input : IO.FS.Stream) (line : ByteArray) : IO ByteArray := do
  let byte ← input.read 1
  let line := line ++ byte
  if byte.isEmpty || byte[0]? == some 10 then return line
  else readLine input line

/-- Answers lines until one of them quits or there are no more. -/
partial def converse (input output : IO.FS.Stream) (session : Session) : IO UInt32 := do
  output.putStr Session.prompt
  output.flush
  let line ← readLine input ByteArray.empty
  if line.isEmpty then return 0
  match decodeText line with
  | .error fault =>
      IO.eprint (CommandLine.errorLine [fault.message])
      return 1
  | .ok line =>
      let (answer, next) := Turn.shown (← (session.execute line).perform)
      output.putStr answer
      match next with
      | some session => converse input output session
      | none => return 0

/-- Shows a report and gives its exit status. -/
def finish (report : Report) : IO UInt32 := do
  IO.print report.output
  IO.eprint report.errors
  return report.code.toUInt32

/-- Runs the program. -/
def run (arguments : List String) : IO UInt32 := do
  match Invocation.ofArguments arguments with
  | .help => finish CommandLine.helpReport
  | .refused fault => finish (CommandLine.refusal fault)
  | .run options =>
      match ← options.start (← userFile) with
      | .error fault => finish (CommandLine.failure fault)
      | .ok (.text output) => finish (CommandLine.success output)
      | .ok (.session session) =>
          let output ← IO.getStdout
          output.putStr session.greeting
          converse (← IO.getStdin) output session

end Spreadsheet.Program

/-- The program's entry. -/
def main (arguments : List String) : IO UInt32 :=
  Spreadsheet.Program.run arguments
