/-!
Access to files by path.

* `FileFault` is why a file could not be read or written, with the operating
  system's wording;
* `FileAccess m` are the file operations of a monad `m`;
* `FileRequest` is a computation that asks for at most one file to be read or
  written, and says how to go on with either answer.
-/

namespace Spreadsheet

/-- Why a file could not be read or written. -/
inductive FileFault where
  /-- The path names nothing. -/
  | missing
  /-- The path goes on below something that is no directory. -/
  | notDirectory
  /-- A directory was to be read or written. -/
  | isDirectory
  /-- The path, or a name on it, is too long. -/
  | nameTooLong
  /-- The path holds a zero character. -/
  | zeroInName
  /-- The content is no UTF-8 text. -/
  | notText
  /-- The operating system reports something else. -/
  | other (report : String)
  deriving DecidableEq

/-- The wording of a fault. -/
def FileFault.message : FileFault → String
  | .missing => "No such file or directory (os error 2)"
  | .notDirectory => "Not a directory (os error 20)"
  | .isDirectory => "Is a directory (os error 21)"
  | .nameTooLong => "File name too long (os error 36)"
  | .zeroInName => "file name contained an unexpected NUL byte"
  | .notText => "stream did not contain valid UTF-8"
  | .other report => report

/-- File operations. -/
class FileAccess (m : Type → Type) where
  /-- The content of a file. -/
  read : String → m (Except FileFault ByteArray)
  /-- Replaces the content of a file, which is created if need be. -/
  write : String → ByteArray → m (Except FileFault Unit)
  /-- The number of bytes of a file, or some number for a directory. -/
  size : String → m (Except FileFault Nat)

/-- The text that bytes encode. -/
def decodeText (bytes : ByteArray) : Except FileFault String :=
  match String.fromUTF8? bytes with
  | some text => .ok text
  | none => .error .notText

/-- The content of a file as text. -/
def FileAccess.readText {m : Type → Type} [Monad m] [FileAccess m] (path : String) :
    m (Except FileFault String) := do
  return (← FileAccess.read path) >>= decodeText

/-- Whether a path names something. -/
def FileAccess.present {m : Type → Type} [Monad m] [FileAccess m] (path : String) : m Bool := do
  match ← FileAccess.size path with
  | .ok _ => return true
  | .error _ => return false

/-- A result, or a request for one file and how the answer leads to a result. -/
inductive FileRequest (α : Type) where
  /-- No file is needed. -/
  | done (result : α)
  /-- The text of a file is needed. -/
  | read (path : String) (next : Except FileFault String → α)
  /-- A text is to be written to a file. -/
  | write (path : String) (content : String) (next : Except FileFault Unit → α)

/-- The request with its result changed. -/
def FileRequest.map {α β : Type} (f : α → β) : FileRequest α → FileRequest β
  | .done result => .done (f result)
  | .read path next => .read path fun answer => f (next answer)
  | .write path content next => .write path content fun answer => f (next answer)

/-- Carries a request out. -/
def FileRequest.perform {m : Type → Type} [Monad m] [FileAccess m] {α : Type} :
    FileRequest α → m α
  | .done result => pure result
  | .read path next => do return next (← FileAccess.readText path)
  | .write path content next => do return next (← FileAccess.write path content.toUTF8)

end Spreadsheet
