import Spreadsheet.Life
import Spreadsheet.Sheet.Saved
import Spreadsheet.Table

/-!
A conversation about a sheet, one command to a line.

* `Command.ofLine` reads a command. Its arguments are checked only as far as it
  takes to tell what is to be done;
* `Session.execute` carries a command out. A command needs at most one file, so it
  is a file request that leads to a `Turn`: the session after the command, and
  what it answers or why it failed;
* `Session.converse` answers line after line until a line quits.

What is shown is a part of the result, and showing it always succeeds. A terminal or a
pipe that refuses an answer is left out: a command would then fail after it has been
carried out.
-/

namespace Spreadsheet

/-! ### Commands -/

/-- What a line asks for. -/
inductive Command where
  /-- The line is blank. -/
  | nothing
  | quit
  | help
  | set (cell : Location) (formula : String)
  | inspect (cell : Location)
  | usedBy (cell : Location)
  | clear
  | resize (rows columns : Nat)
  | life (generations : Nat)
  /-- Save, in the current file if no path is given. -/
  | save (path : Option String)
  | load (path : String)

/-- Why a command failed. -/
inductive CommandFault where
  | missingReference
  | invalidReference (text : String)
  | resizeUsage
  | rowCount (text : String) (fault : Text.NumberFault)
  | columnCount (text : String) (fault : Text.NumberFault)
  | generationCount (text : String) (fault : Text.NumberFault)
  | loadUsage
  | unknown (command : String)
  /-- There is no current file to save in. -/
  | noFile
  | sheet (fault : SheetFault)
  /-- A sheet could not be loaded from a file. -/
  | load (path : String) (fault : SheetFault)
  deriving DecidableEq

/-- The wording of a fault, then that of each fault it passes on. -/
def CommandFault.causes : CommandFault → List String
  | .missingReference => ["Missing cell reference"]
  | .invalidReference text => [Location.noNameMessage text]
  | .resizeUsage => ["Usage: resize <ROWS> <COLS>"]
  | .rowCount text fault => [s!"Invalid row count: {text}", fault.message]
  | .columnCount text fault => [s!"Invalid column count: {text}", fault.message]
  | .generationCount text fault => [s!"Invalid generation count: {text}", fault.message]
  | .loadUsage => ["Usage: load <PATH>"]
  | .unknown command => [s!"Unknown command: {command}"]
  | .noFile => ["No file path. Use save <PATH>"]
  | .sheet fault => fault.causes
  | .load path fault => s!"Failed to load {path}" :: fault.causes

/-- A chain of causes on one line. -/
def joinCauses (causes : List String) : String :=
  ": ".intercalate causes

namespace Command

/-- The cell that an argument names. -/
def readCell (text : List Char) : Except CommandFault Location :=
  if text.isEmpty then .error .missingReference
  else match Location.ofText? text with
    | some cell => .ok cell
    | none => .error (.invalidReference (String.ofList text))

/-- A count, with the fault to report if it is none. -/
def readCount (text : List Char) (fault : String → Text.NumberFault → CommandFault) :
    Except CommandFault Nat :=
  match Text.readUnsigned text with
  | .ok count => .ok count
  | .error cause => .error (fault (String.ofList text) cause)

/-- The command that a name and the text after it give. -/
def ofParts (name arguments : List Char) : Except CommandFault Command :=
  match String.ofList name with
  | "" => .ok .nothing
  | "quit" | "q" | "exit" => .ok .quit
  | "help" | "h" => .ok .help
  | "set" => do
      let (cell, formula) := (Text.cutAtBlank arguments).getD (arguments, [])
      return .set (← readCell cell) (String.ofList formula)
  | "show" => do return .inspect (← readCell arguments)
  | "deps" => do return .usedBy (← readCell arguments)
  | "clear" => .ok .clear
  | "resize" =>
      match Text.words arguments with
      | [rows, columns] => do
          return .resize (← readCount rows .rowCount) (← readCount columns .columnCount)
      | _ => .error .resizeUsage
  | "life" =>
      if arguments.isEmpty then .ok (.life 1)
      else do return .life (← readCount arguments .generationCount)
  | "save" | "w" => .ok (.save (if arguments.isEmpty then none else some (String.ofList arguments)))
  | "load" | "e" =>
      if arguments.isEmpty then .error .loadUsage else .ok (.load (String.ofList arguments))
  | other => .error (.unknown other)

/-- The command on a line: its name goes up to the first blank, and blanks around
the line and around the arguments do not matter. -/
def ofLine (line : String) : Except CommandFault Command :=
  let line := Text.trim line.toList
  match Text.cutAtBlank line with
  | some (name, arguments) => ofParts name (Text.trim arguments)
  | none => ofParts line []

end Command

/-! ### Sessions -/

/-- A sheet that is worked on, and the file that it is saved in. -/
structure Session where
  sheet : Sheet
  file : Option String

/-- What a command answers. -/
inductive Answer where
  /-- A text is shown. -/
  | text (shown : String)
  /-- The conversation ends. -/
  | farewell

/-- The session after a command, and the answer or why the command failed. -/
structure Turn where
  session : Session
  result : Except CommandFault Answer

/-- What a turn shows, and the session with which the conversation goes on, if it
does. -/
def Turn.shown (turn : Turn) : String × Option Session :=
  match turn.result with
  | .ok (.text shown) => (shown, some turn.session)
  | .ok .farewell => ("", none)
  | .error fault => (s!"Error: {joinCauses fault.causes}\n", some turn.session)

/-- What a conversation shows. It fails if a line is no text; what was shown before
comes with the fault. -/
structure Transcript where
  shown : String
  fault : Option FileFault

namespace Session

/-- The list of commands. -/
def helpText : String :=
  Text.unlines [
    "Commands:",
    "  set <REF> <formula>    Write a formula into a cell (e.g. set B2 A0 + 1)",
    "  show <REF>             Show the formula and value of a cell",
    "  deps <REF>             List the cells that use a cell",
    "  clear                  Empty every cell",
    "  resize <ROWS> <COLS>   Grow the sheet",
    "  life [N]               Run N generations of Life (default 1)",
    "  save [PATH]            Save to PATH or the current file",
    "  load <PATH>            Replace the sheet with a saved file",
    "  help                   Show this help",
    "  quit                   Leave"]

/-- A turn that leaves the session as it is. -/
def reply (session : Session) (result : Except CommandFault Answer) : Turn :=
  ⟨session, result⟩

/-- A turn that shows a text. -/
def say (session : Session) (text : String) : Turn :=
  session.reply (.ok (.text text))

/-- A turn after which the sheet is another one, and is shown, if the change
succeeds. -/
def change (session : Session) : Except SheetFault Sheet → Turn
  | .ok sheet => { session with sheet }.say (Table.render sheet)
  | .error fault => session.reply (.error (.sheet fault))

/-- The formula and the value of a cell. -/
def showCell (session : Session) (cell : Location) : Turn :=
  match session.sheet.formula? cell with
  | some formula =>
      session.say s!"{cell.name}: {formula.render} = {session.sheet.valueText cell}\n"
  | none => session.reply (.error (.sheet (.outside cell)))

/-- The cells that use a cell. -/
def showUsers (session : Session) (cell : Location) : Turn :=
  match session.sheet.usedBy cell with
  | [] => session.say s!"{cell.name} is not used by any cell\n"
  | users =>
      let names := ", ".intercalate (users.map Location.name)
      session.say s!"{cell.name} is used by {names}\n"

/-- Some generations of life. If one of them fails, the sheet stays as that one
left it. -/
def runLife (session : Session) (generations : Nat) : Turn :=
  match Life.run session.sheet [] generations with
  | (sheet, counts, none) =>
      { session with sheet }.say
        s!"{Table.render sheet}{generations} generation(s), {counts.headD 0} live\n"
  | (sheet, _, some fault) => { session with sheet }.reply (.error (.sheet fault))

/-- Saves the sheet. A path that is given is the current file from then on, whether
it can be written or not. -/
def save (session : Session) (path : Option String) : FileRequest Turn :=
  let session := { session with file := path.or session.file }
  match session.file with
  | none => .done (session.reply (.error .noFile))
  | some path => (session.sheet.saveTo path).map fun
      | .ok () => session.say s!"Saved to {path}\n"
      | .error fault => session.reply (.error (.sheet fault))

/-- Loads a sheet from a file, which is the current file from then on. -/
def load (session : Session) (path : String) : FileRequest Turn :=
  (session.sheet.loadFrom path).map fun
    | .ok (sheet, _) => { session with sheet, file := some path }.say (Table.render sheet)
    | .error fault => session.reply (.error (.load path fault))

/-- Carries a command out. -/
def perform (session : Session) : Command → FileRequest Turn
  | .nothing => .done (session.say "")
  | .quit => .done (session.reply (.ok .farewell))
  | .help => .done (session.say helpText)
  | .set cell formula => .done (session.change (session.sheet.write cell formula))
  | .inspect cell => .done (session.showCell cell)
  | .usedBy cell => .done (session.showUsers cell)
  | .clear => .done (session.change (.ok session.sheet.clear))
  | .resize rows columns => .done (session.change (session.sheet.resize rows columns))
  | .life generations => .done (session.runLife generations)
  | .save path => session.save path
  | .load path => session.load path

/-- Carries the command on a line out. Files may fail; what is answered can always be
shown. -/
def execute (session : Session) (line : String) : FileRequest Turn :=
  match Command.ofLine line with
  | .ok command => session.perform command
  | .error fault => .done (session.reply (.error fault))

/-! ### Conversations -/

/-- What is shown before each line is read. -/
def prompt : String := "> "

/-- What is shown at the start of a conversation. -/
def greeting (session : Session) : String :=
  Table.render session.sheet

/-- Answers lines until one of them quits or there are no more. -/
def converse {m : Type → Type} [Monad m] [FileAccess m] (session : Session) (shown : String) :
    List ByteArray → m Transcript
  | [] => return ⟨shown ++ prompt, none⟩
  | line :: rest => do
      let shown := shown ++ prompt
      match decodeText line with
      | .error fault => return ⟨shown, some fault⟩
      | .ok line =>
          match Turn.shown (← (session.execute line).perform) with
          | (answer, some session) => session.converse (shown ++ answer) rest
          | (answer, none) => return ⟨shown ++ answer, none⟩

/-- The lines of an input, each with its line feed. -/
def inputLines (input : ByteArray) : List ByteArray :=
  let (last, ended) := input.foldl
    (fun (line, ended) byte =>
      let line := line.push byte
      if byte = 10 then (ByteArray.empty, ended.push line) else (line, ended))
    (ByteArray.empty, (#[] : Array ByteArray))
  ended.toList ++ (if last.isEmpty then [] else [last])

/-- A whole conversation. -/
def run {m : Type → Type} [Monad m] [FileAccess m] (session : Session) (input : ByteArray) :
    m Transcript :=
  session.converse session.greeting (inputLines input)

end Session

end Spreadsheet
