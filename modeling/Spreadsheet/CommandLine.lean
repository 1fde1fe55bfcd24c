import Spreadsheet.Session
import Spreadsheet.Settings.Basic

/-!
The program's command line.

* `Invocation.ofArguments` reads the arguments from left to right; a request for
  help and a fault both end the reading;
* `Options.start` makes the sheet that the options ask for: it reads the settings
  and the file, and either has something to print or starts a conversation;
* `CommandLine.run` is the whole program on a given input.
-/

namespace Spreadsheet

/-- What the program is to do. -/
structure Options where
  /-- The file to open. -/
  file : Option String
  /-- A formula to evaluate in an empty sheet. -/
  formula : Option String
  /-- Whether to print the values of the sheet and end. -/
  print : Bool
  /-- The file to read settings from. -/
  settings : Option String
  /-- Whether to read no settings at all. -/
  plain : Bool

/-- No options. -/
def Options.unset : Options :=
  ⟨none, none, false, none, false⟩

/-- What is wrong with the arguments. -/
inductive ArgumentFault where
  | formulaMissing
  | settingsMissing
  | unknownOption (argument : String)
  /-- There is a second file. -/
  | unexpected (argument : String)
  deriving DecidableEq

/-- What the arguments come down to. -/
inductive Invocation where
  | help
  | refused (fault : ArgumentFault)
  | run (options : Options)

/-- How the program ended. -/
structure Report where
  code : Nat
  output : String
  errors : String

/-- Why the program could not do what the options ask for. -/
inductive StartFault where
  /-- The settings file that is named cannot be used. -/
  | settings (path : String) (fault : SettingsFault)
  /-- The user's settings file cannot be used. -/
  | userSettings (fault : SettingsFault)
  /-- There is no sheet of the size that the settings give. -/
  | size (fault : SheetFault)
  /-- The formula to evaluate is at fault. -/
  | formula (fault : SheetFault)
  /-- The file cannot be loaded. -/
  | load (path : String) (fault : SheetFault)
  /-- There is no file to print. -/
  | noFile (path : String)
  deriving DecidableEq

/-- The wording of a fault, then that of each fault it passes on. -/
def StartFault.causes : StartFault → List String
  | .settings path fault => s!"Failed to load config from {path}" :: fault.causes
  | .userSettings fault => "Failed to load user config" :: fault.causes
  | .size fault => "Invalid sheet size in config" :: fault.causes
  | .formula fault => fault.causes
  | .load path fault => s!"Failed to load {path}" :: fault.causes
  | .noFile path => [s!"No such file: {path}"]

/-- What a start leads to. -/
inductive Launch where
  /-- A text is printed, and that is all. -/
  | text (output : String)
  /-- A conversation begins. -/
  | session (session : Session)

namespace Invocation

/-- Reads arguments, given the options that were read before. -/
def readFrom (options : Options) : List String → Invocation
  | [] => .run options
  | "-h" :: _ | "--help" :: _ => .help
  | ["-c"] | ["--command"] => .refused .formulaMissing
  | "-c" :: formula :: rest | "--command" :: formula :: rest =>
      readFrom { options with formula := some formula } rest
  | "-p" :: rest | "--print" :: rest => readFrom { options with print := true } rest
  | ["--config"] => .refused .settingsMissing
  | "--config" :: path :: rest => readFrom { options with settings := some path } rest
  | "--no-config" :: rest => readFrom { options with plain := true } rest
  | argument :: rest =>
      if argument.startsWith "-" then .refused (.unknownOption argument)
      else if options.file.isNone then readFrom { options with file := some argument } rest
      else .refused (.unexpected argument)

/-- What the arguments come down to. -/
def ofArguments (arguments : List String) : Invocation :=
  readFrom Options.unset arguments

end Invocation

namespace Options

/-- The settings that the options ask for, where `userFile` is the user's settings
file, if there can be one. -/
def loadSettings {m : Type → Type} [Monad m] [FileAccess m] (options : Options)
    (userFile : Option String) : m (Except StartFault Settings) := do
  if options.plain then return .ok Settings.default
  match options.settings, userFile with
  | some path, _ => return (← Settings.load path).mapError (.settings path)
  | none, some path => return (← Settings.loadIfPresent path).mapError .userSettings
  | none, none => return .ok Settings.default

/-- The value of a formula in the first cell of a sheet. -/
def evaluateFormula (sheet : Sheet) (formula : String) : Except StartFault Launch :=
  let first : Location := ⟨0, 0⟩
  match sheet.write first formula with
  | .ok sheet => .ok (.text (sheet.valueText first ++ "\n"))
  | .error fault => .error (.formula fault)

/-- The sheet in the file that the options name. The file need not exist, unless its
sheet is to be printed. -/
def openFile {m : Type → Type} [Monad m] [FileAccess m] (options : Options) (sheet : Sheet) :
    m (Except StartFault Sheet) := do
  match options.file with
  | none => return .ok sheet
  | some path =>
      if ← FileAccess.present path then
        match ← (sheet.loadFrom path).perform with
        | .ok (sheet, _) => return .ok sheet
        | .error fault => return .error (.load path fault)
      else if options.print then return .error (.noFile path)
      else return .ok sheet

/-- Makes the sheet that the options ask for, and goes on with it as they say. -/
def start {m : Type → Type} [Monad m] [FileAccess m] (options : Options)
    (userFile : Option String) : m (Except StartFault Launch) := do
  match ← options.loadSettings userFile with
  | .error fault => return .error fault
  | .ok settings =>
      match settings.template.make settings.rows settings.columns with
      | .error fault => return .error (.size fault)
      | .ok sheet =>
          match options.formula with
          | some formula => return evaluateFormula sheet formula
          | none =>
              match ← options.openFile sheet with
              | .error fault => return .error fault
              | .ok sheet =>
                  if options.print then return .ok (.text (Table.render sheet))
                  else return .ok (.session ⟨sheet, options.file⟩)

end Options

namespace CommandLine

/-- How to call the program. -/
def usage : String :=
  Text.unlines [
    "Usage: tabula [OPTIONS] [FILE]",
    "",
    "Arguments:",
    "  [FILE]                    Sheet file to open",
    "",
    "Options:",
    "  -c, --command <FORMULA>   Evaluate a formula in an empty sheet and print it",
    "  -p, --print               Print the sheet's values and exit",
    "  --config <FILE>           Read configuration from FILE",
    "  --no-config               Ignore the user configuration file",
    "  -h, --help                Print help"]

/-- The report on arguments that cannot be used. -/
def refusal : ArgumentFault → Report
  | .formulaMissing => ⟨1, "", "Error: --command requires a formula\n"⟩
  | .settingsMissing => ⟨1, "", "Error: --config requires a file path\n"⟩
  | .unknownOption argument => ⟨1, "", s!"Error: Unknown option: {argument}\n{usage}"⟩
  | .unexpected argument => ⟨1, "", s!"Error: Unexpected argument: {argument}\n{usage}"⟩

/-- What is reported of a chain of causes. -/
def errorLine (causes : List String) : String :=
  s!"Error: {joinCauses causes}\n"

/-- The report with which help is given. -/
def helpReport : Report :=
  ⟨0, "", usage⟩

/-- The report on a text that is printed. -/
def success (output : String) : Report :=
  ⟨0, output, ""⟩

/-- The report on options that could not be followed. -/
def failure (fault : StartFault) : Report :=
  ⟨1, "", errorLine fault.causes⟩

/-- The report on a conversation. -/
def conversationReport (transcript : Transcript) : Report :=
  match transcript.fault with
  | none => ⟨0, transcript.shown, ""⟩
  | some fault => ⟨1, transcript.shown, errorLine [fault.message]⟩

/-- The whole program, where `input` is what is typed and `userFile` the user's
settings file. -/
def run {m : Type → Type} [Monad m] [FileAccess m] (arguments : List String)
    (userFile : Option String) (input : ByteArray) : m Report := do
  match Invocation.ofArguments arguments with
  | .help => return helpReport
  | .refused fault => return refusal fault
  | .run options =>
      match ← options.start userFile with
      | .error fault => return failure fault
      | .ok (.text output) => return success output
      | .ok (.session session) => return conversationReport (← session.run input)

end CommandLine

end Spreadsheet
