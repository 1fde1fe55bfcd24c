import Spreadsheet.Text.Ranges
import Spreadsheet.Text.Blank
import Spreadsheet.Text.Alphanumeric
import Spreadsheet.Text.Lines
import Spreadsheet.Text.Number
import Spreadsheet.Location
import Spreadsheet.Operator
import Spreadsheet.Expr.Basic
import Spreadsheet.Expr.Evaluation
import Spreadsheet.Formula
import Spreadsheet.Graph
import Spreadsheet.FileAccess
import Spreadsheet.FileTree
import Spreadsheet.Sheet.Fault
import Spreadsheet.Sheet.Basic
import Spreadsheet.Sheet.Update
import Spreadsheet.Sheet.Resize
import Spreadsheet.Sheet.Saved
import Spreadsheet.Life
import Spreadsheet.Table
import Spreadsheet.Settings.Toml
import Spreadsheet.Settings.Basic
import Spreadsheet.Session
import Spreadsheet.CommandLine
import Spreadsheet.Main
import Spreadsheet.Proofs.Tables
import Spreadsheet.Proofs.Names
import Spreadsheet.Proofs.Operator
import Spreadsheet.Proofs.Text.Trimming
import Spreadsheet.Proofs.Text.Characters
import Spreadsheet.Proofs.Text.Lines
import Spreadsheet.Proofs.Spellings
import Spreadsheet.Proofs.Text.Stretches
import Spreadsheet.Proofs.Expr.Lookup
import Spreadsheet.Proofs.Expr.Shape
import Spreadsheet.Proofs.Expr.Circular
import Spreadsheet.Proofs.Expr.Agreement
import Spreadsheet.Proofs.Expr.Valuation
import Spreadsheet.Proofs.Formula.Reading
import Spreadsheet.Proofs.Formula.Rendering
import Spreadsheet.Proofs.Formula.Canonical
import Spreadsheet.Proofs.Formula.Grammar
import Spreadsheet.Proofs.Formula.Literals
import Spreadsheet.Proofs.Graph.Search
import Spreadsheet.Proofs.Graph.Sweep
import Spreadsheet.Proofs.Grid
import Spreadsheet.Proofs.Grid.Pending
import Spreadsheet.Proofs.Sheet.Linked
import Spreadsheet.Proofs.Sheet.Changes
import Spreadsheet.Proofs.Sheet.Staging
import Spreadsheet.Proofs.Sheet.UpToDate
import Spreadsheet.Proofs.Sheet.Unused
import Spreadsheet.Proofs.Sheet.Runs
import Spreadsheet.Proofs.Sheet.Dependents
import Spreadsheet.Proofs.Sheet.Incremental
import Spreadsheet.Proofs.Sheet.Determined
import Spreadsheet.Proofs.Sheet.Consistent
import Spreadsheet.Proofs.Sheet.Growing
import Spreadsheet.Proofs.Sheet.Saved
import Spreadsheet.Proofs.Sheet.Loading
import Spreadsheet.Proofs.Sheet.Encoding
import Spreadsheet.Proofs.Sheet.Typed
import Spreadsheet.Proofs.Sheet.Values
import Spreadsheet.Proofs.Sheet.Reloading
import Spreadsheet.Proofs.Life.Neighbours
import Spreadsheet.Proofs.Life.Generation
import Spreadsheet.Proofs.Life.Writing
import Spreadsheet.Proofs.Life.Order
import Spreadsheet.Proofs.Session
import Spreadsheet.Proofs.Life.Counting
import Spreadsheet.Proofs.Table
import Spreadsheet.Proofs.Settings
