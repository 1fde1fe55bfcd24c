import Spreadsheet.Graph
import Spreadsheet.Sheet.Basic

/-!
Writing a formula into a cell.

An update happens in two steps. The new formula and the formulas of all cells
that depend on the cell are evaluated against a table of symbols, each after those
it depends on; then, if every one of them has a worth, formulas, values and users
change together. So a failed update changes nothing, which is why it is a function
that returns the new sheet or a fault.

* `Sheet.usedBy` are the cells that depend on a cell, directly or not, as
  `Sheet.sweepUsers` finds them;
* `Sheet.evaluationOrder` lists the dependents of cells, each after those it
  depends on;
* `Sheet.stage` evaluates one cell and enters its value in the table;
* `Sheet.update` writes an expression, `Sheet.write` a text.
-/

namespace Spreadsheet.Sheet

/-! ### Dependents -/

/-- All cells that depend on the sources, each before those that depend on it. -/
def evaluationOrder (s : Sheet) (sources : List Location) : List Location :=
  Graph.downstream s.usersOf s.users.size sources

/-- The cells that users of a cell are entered for, once for every entry. -/
def allUsers (s : Sheet) : List Location :=
  s.users.toList.flatMap Prod.snd

/-- The sweep over the users of a cell, their users and so on. -/
def sweepUsers (s : Sheet) (cell : Location) : Graph.Sweep Location :=
  Graph.sweep s.usersOf (s.allUsers.length + 1) (.start cell)

/-- The cells whose formulas mention the given one, directly or through other
cells, row by row. -/
def usedBy (s : Sheet) (cell : Location) : List Location :=
  (Std.TreeSet.ofList (s.sweepUsers cell).found).toList

/-- The first cell mentioned by the formula through which the given cell would
depend on itself. -/
def cycleThrough? (s : Sheet) (cell : Location) (formula : Expr) : Option Location :=
  let users := s.usedBy cell
  (s.targets formula).find? fun via => via == cell || users.contains via

/-! ### Evaluation -/

/-- The built-ins, and every cell's value under the cell's name. A cell hides a
built-in of the same name. -/
def symbols (s : Sheet) : SymbolTable :=
  s.values.foldl (fun table cell value => table.insert cell.name value) s.builtins

/-- Binds the names in the formula that spell a cell of the sheet with leading
zeros, each to what the cell's own name is bound to. -/
def bindSpellings (s : Sheet) (formula : Expr) (table : SymbolTable) : SymbolTable :=
  formula.dependencies.foldl
    (fun table name =>
      match Location.ofName? name with
      | none => table
      | some cell =>
          if cell.name = name || !s.contains cell then table
          else match table[cell.name]? with
            | some value => table.insert name value
            | none => table)
    table

/-- How far an update has come: the symbols in force, and the new values in the
order in which they were found. -/
structure Staging where
  table : SymbolTable
  values : List (Location × Expr)

/-- Evaluates a formula and enters the value as that of the cell. -/
def stage (s : Sheet) (staging : Staging) (cell : Location) (formula : Expr) :
    Except EvalFault Staging := do
  let table := s.bindSpellings formula staging.table
  let value ← formula.evaluate table
  return ⟨table.insert cell.name value, staging.values ++ [(cell, value)]⟩

/-- Evaluates the formulas of all cells that depend on the sources. -/
def stageDependents (s : Sheet) (sources : List Location) (staging : Staging) :
    Except EvalFault Staging :=
  (s.evaluationOrder sources).foldlM
    (fun staging cell =>
      match s.formula? cell with
      | some formula => s.stage staging cell formula
      | none => .ok staging)
    staging

/-! ### Change -/

/-- Enters a cell as user of another one. -/
def addUser (users : CellMap (List Location)) (edge : Location × Location) :
    CellMap (List Location) :=
  users.modify edge.1 (·.insert edge.2)

/-- Removes a cell from the users of another one. -/
def removeUser (users : CellMap (List Location)) (edge : Location × Location) :
    CellMap (List Location) :=
  users.modify edge.1 (·.filter (· ≠ edge.2))

/-- The edges of a cell with the given formula, from each cell that it mentions. -/
def edges (s : Sheet) (cell : Location) (formula : Expr) : List (Location × Location) :=
  (s.targets formula).map fun target => (target, cell)

/-- The users after a cell's formula is replaced: the edges of the old formula go,
then those of the new one are added. -/
def relink (s : Sheet) (cell : Location) (formula : Expr) : CellMap (List Location) :=
  let old := match s.formula? cell with
    | some old => s.edges cell old
    | none => []
  (s.edges cell formula).foldl addUser (old.foldl removeUser s.users)

/-- Replaces a cell's formula, and the values that have been found. -/
def commit (s : Sheet) (cell : Location) (formula : Expr) (staging : Staging) : Sheet :=
  { s with
    users := s.relink cell formula
    formulas := s.formulas.insert cell formula
    values := s.values.store staging.values }

/-- The new values of a cell and its dependents once the formula is written. -/
def stageUpdate (s : Sheet) (cell : Location) (formula : Expr) : Except EvalFault Staging := do
  s.stageDependents [cell] (← s.stage ⟨s.symbols, []⟩ cell formula)

/-- Writes an expression into a cell and brings all cells that depend on it up to
date. -/
def update (s : Sheet) (cell : Location) (formula : Expr) : Except SheetFault Sheet :=
  if !s.contains cell then .error (.outside cell)
  else match s.cycleThrough? cell formula with
    | some via => .error (.circular cell via)
    | none =>
        match s.stageUpdate cell formula with
        | .ok staging => .ok (s.commit cell formula staging)
        | .error fault => .error (.evaluation fault)

/-- Writes a formula's text into a cell. -/
def write (s : Sheet) (cell : Location) (text : String) : Except SheetFault Sheet :=
  match Formula.parse text with
  | .ok formula => s.update cell formula
  | .error fault => .error (.formula fault)

end Spreadsheet.Sheet
