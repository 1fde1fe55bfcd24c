import Spreadsheet.Settings.Toml
import Spreadsheet.Sheet.Basic
import Spreadsheet.Text.Alphanumeric

/-!
Settings: the size of a new sheet and the built-ins that it is made with.

* `Settings.ofText` reads settings; what a text leaves out stays as it is by
  default, and names that mean nothing are refused;
* `Settings.load` reads them from a file, which must not be large;
* `Settings.template` is what new sheets are made from.
-/

namespace Spreadsheet

/-- The size of a new sheet, and numbers bound to names. -/
structure Settings where
  rows : Nat
  columns : Nat
  builtins : Std.TreeMap String Int64

/-- Why there are no settings. -/
inductive SettingsFault where
  /-- The file could not be read. -/
  | file (path : String) (fault : FileFault)
  /-- The file has too many bytes to be read. -/
  | tooLarge (path : String) (size : Nat)
  /-- The text is not that of settings. -/
  | malformed
  /-- A built-in has a name that no formula can mention. -/
  | builtinName (name : String)
  deriving DecidableEq

/-- The wording of a fault. -/
def SettingsFault.message : SettingsFault → String
  | .file path fault => s!"failed to read {path}: {fault.message}"
  | .tooLarge path size => s!"refusing to read {path}: file too large ({size} bytes)"
  | .malformed => "invalid config:"
  | .builtinName name => s!"invalid built-in name '{name}': names must be alphanumeric"

/-- The wording of a fault, then that of the fault it passes on, if any. -/
def SettingsFault.causes : SettingsFault → List String
  | .file path fault => [message (.file path fault), fault.message]
  | fault => [fault.message]

namespace Settings

/-- Twenty rows, five columns, and no built-ins. -/
def default : Settings :=
  ⟨20, 5, ∅⟩

/-- The most bytes that a file of settings may have. -/
def maxBytes : Nat := 1048576

/-! ### Reading -/

/-- How the table of built-ins has been started, if it has. -/
inductive TableStart where
  | none
  /-- By keys with a dot, of which more may follow. -/
  | dotted
  /-- By a table in braces, which is complete. -/
  | braces
  /-- By a header, which the entries after it belong to. -/
  | header
  deriving DecidableEq

/-- Settings of which a part has been read. -/
structure Draft where
  rows? : Option Nat
  columns? : Option Nat
  builtins : Std.TreeMap String Int64
  start : TableStart

/-- Settings of which nothing has been read. -/
def Draft.new : Draft :=
  ⟨none, none, ∅, .none⟩

/-- Adds a built-in, whose name must be new. -/
def Draft.bind (draft : Draft) (name : String) (value : Int64) : Option Draft :=
  if draft.builtins.contains name then none
  else some { draft with builtins := draft.builtins.insert name value }

/-- Takes a statement of the document into account. Every statement that settings
cannot have, and every one that repeats another, is refused. -/
def Draft.take (draft : Draft) : Toml.Statement → Option Draft
  | .header ["builtins"] =>
      if draft.start = .none then some { draft with start := .header } else none
  | .header _ => none
  | .entry key value =>
      if draft.start = .header then
        match key, value with
        | [name], .integer value => draft.bind name value
        | _, _ => none
      else
        match key, value with
        | ["rows"], .integer rows =>
            if draft.rows?.isNone && 0 ≤ rows then
              some { draft with rows? := some rows.toNatClampNeg }
            else none
        | ["columns"], .integer columns =>
            if draft.columns?.isNone && 0 ≤ columns then
              some { draft with columns? := some columns.toNatClampNeg }
            else none
        | ["builtins"], .table entries =>
            if draft.start = .none then
              entries.foldlM
                (fun draft (key, value) =>
                  match key with
                  | [name] => draft.bind name value
                  | _ => none)
                { draft with start := .braces }
            else none
        | ["builtins", name], .integer value =>
            if draft.start = .none || draft.start = .dotted then
              { draft with start := .dotted }.bind name value
            else none
        | _, _ => none

/-- Settings with defaults for what is missing. -/
def Draft.finish (draft : Draft) : Settings :=
  ⟨draft.rows?.getD default.rows, draft.columns?.getD default.columns, draft.builtins⟩

/-- Whether a formula can mention a name: it has characters, and all of them are
alphanumeric. -/
def isUsableName (name : String) : Bool :=
  !name.isEmpty && name.toList.all Text.isAlphanumeric

/-- Settings whose built-ins all have usable names. -/
def check (settings : Settings) : Except SettingsFault Settings :=
  match settings.builtins.keys.find? fun name => !isUsableName name with
  | some name => .error (.builtinName name)
  | none => .ok settings

/-- The settings that a text gives. -/
def ofText (text : String) : Except SettingsFault Settings :=
  match Toml.statements? text >>= fun statements => statements.foldlM Draft.take Draft.new with
  | some draft => draft.finish.check
  | none => .error .malformed

/-! ### Files -/

/-- The settings in a file, which must exist. -/
def load {m : Type → Type} [Monad m] [FileAccess m] (path : String) :
    m (Except SettingsFault Settings) := do
  match ← FileAccess.size path with
  | .error fault => return .error (.file path fault)
  | .ok size =>
      if maxBytes < size then return .error (.tooLarge path size)
      else match ← FileAccess.readText path with
        | .error fault => return .error (.file path fault)
        | .ok text => return ofText text

/-- The settings in a file, or the default ones if there is no such file. -/
def loadIfPresent {m : Type → Type} [Monad m] [FileAccess m] (path : String) :
    m (Except SettingsFault Settings) := do
  if ← FileAccess.present path then load path else return .ok default

/-! ### Use -/

/-- Sheets that start empty, with the settings' built-ins. -/
def template (settings : Settings) : Template :=
  settings.builtins.foldl (fun t name value => t.bind name (.const value)) (Template.new .empty)

end Settings

end Spreadsheet
