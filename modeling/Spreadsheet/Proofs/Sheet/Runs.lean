import Mathlib.Tactic
import Spreadsheet.Life
import Spreadsheet.Proofs.Sheet.UpToDate
import Spreadsheet.Sheet.Saved

/-!
Runs of operations on a sheet.

`Step` relates a sheet to what an operation leaves, be it that it succeeds or that it
fails, and `Reached` collects the sheets that any number of steps lead to from a new
one. Loading and the game of life are made of updates, so that whatever is kept by
emptying, by growing, by updates and by listing users in another order is kept by
every step. `TypedStep` and `Typed` are the same with formulas that are entered as texts
only.

Nothing fixes the orders in which users, new links and the cells of a generation are
walked through, and the steps allow all of them. Where the order changes within a load
or a generation, the emptying, the growing and the writes that it is made of are steps
of their own, with steps that list users in another order in between.

* `Kept.step` and `Kept.reached`, `KeptByText.step` and `KeptByText.typed`: the induction
  over runs;
* `Reached.linked` and `Reached.upToDate`: what is kept by all operations;
* `Reached.links_exact`: the links of every sheet that is reached;
* `Reached.values_consistent`: its values.
-/

namespace Spreadsheet.Sheet

open Relation

/-- The sheet after an operation. An operation that fails leaves it as it was. -/
def after (s : Sheet) : Except SheetFault Sheet → Sheet
  | .ok next => next
  | .error _ => s

/-- One operation on a sheet, successful or not. -/
inductive Step (s : Sheet) : Sheet → Prop
  /-- Writing an expression into a cell. -/
  | update (cell : Location) (formula : Expr) : Step s (s.after (s.update cell formula))
  /-- Writing a text into a cell. -/
  | write (cell : Location) (text : String) : Step s (s.after (s.write cell text))
  /-- Emptying all cells. -/
  | clear : Step s s.clear
  /-- Growing to a size, the new links being walked through in any order. -/
  | resize {rows columns : Nat} {result : Except SheetFault Sheet}
      (h : s.Grows rows columns result) : Step s (s.after result)
  /-- Loading a saved sheet. -/
  | load (text : String) : Step s (s.after ((s.load text).map Prod.fst))
  /-- One generation of life, the cells that die and those that are born being walked
  through in any order. -/
  | life {dying born : List Location} (hdying : dying.Perm (Life.deaths s))
      (hborn : born.Perm (Life.births s)) : Step s (Life.advance s dying born).1
  /-- Nothing but that users are walked through in another order from now on. -/
  | reorder {next : Sheet} (h : s.Reordered next) : Step s next

/-- The sheets that operations lead to from a new one. -/
inductive Reached (t : Template) : Sheet → Prop
  /-- A new sheet. -/
  | make {rows columns : Nat} {s : Sheet} (h : t.make rows columns = .ok s) : Reached t s
  /-- One more operation. -/
  | step {s next : Sheet} (h : Reached t s) (hstep : Step s next) : Reached t next

/-- One operation that formulas are entered in as texts, successful or not. -/
inductive TypedStep (s : Sheet) : Sheet → Prop
  /-- Writing a text into a cell. -/
  | write (cell : Location) (text : String) : TypedStep s (s.after (s.write cell text))
  /-- Emptying all cells. -/
  | clear : TypedStep s s.clear
  /-- Growing to a size, in any order. -/
  | resize {rows columns : Nat} {result : Except SheetFault Sheet}
      (h : s.Grows rows columns result) : TypedStep s (s.after result)
  /-- Loading a saved sheet. -/
  | load (text : String) : TypedStep s (s.after ((s.load text).map Prod.fst))
  /-- One generation of life, in any order. -/
  | life {dying born : List Location} (hdying : dying.Perm (Life.deaths s))
      (hborn : born.Perm (Life.births s)) : TypedStep s (Life.advance s dying born).1
  /-- Nothing but that users are walked through in another order from now on. -/
  | reorder {next : Sheet} (h : s.Reordered next) : TypedStep s next

/-- The sheets that such operations lead to from a new one. -/
inductive Typed (t : Template) : Sheet → Prop
  /-- A new sheet. -/
  | make {rows columns : Nat} {s : Sheet} (h : t.make rows columns = .ok s) : Typed t s
  /-- One more operation. -/
  | step {s next : Sheet} (h : Typed t s) (hstep : TypedStep s next) : Typed t next

lemma TypedStep.step {s next : Sheet} (h : TypedStep s next) : Step s next := by
  cases h with
  | write cell text => exact .write cell text
  | clear => exact .clear
  | resize h => exact .resize h
  | load text => exact .load text
  | life hdying hborn => exact .life hdying hborn
  | reorder h => exact .reorder h

lemma Typed.reached {t : Template} {s : Sheet} (h : Typed t s) : Reached t s := by
  induction h with
  | make h => exact .make h
  | step _ hstep ih => exact .step ih hstep.step

/-! ### What all operations keep -/

/-- What is kept by the operations that the others are made of, if formulas are entered as
texts. -/
structure KeptByText (P : Sheet → Prop) : Prop where
  clear : ∀ {s}, P s → P s.clear
  resize : ∀ {s next rows columns}, P s → Grows s rows columns (.ok next) → P next
  write : ∀ {s next cell text}, P s → s.write cell text = .ok next → P next
  reorder : ∀ {s next}, P s → Reordered s next → P next

/-- What is kept by the operations that the others are made of. -/
structure Kept (P : Sheet → Prop) : Prop where
  clear : ∀ {s}, P s → P s.clear
  resize : ∀ {s next rows columns}, P s → Grows s rows columns (.ok next) → P next
  update : ∀ {s next cell formula}, P s → s.update cell formula = .ok next → P next
  reorder : ∀ {s next}, P s → Reordered s next → P next

section Kept

variable {P : Sheet → Prop} {s next : Sheet} {t : Template}

lemma write_eq_ok {cell : Location} {text : String} (h : s.write cell text = .ok next) :
    ∃ formula, Formula.parse text = .ok formula ∧ s.update cell formula = .ok next := by
  rw [write] at h
  cases hparse : Formula.parse text with
  | error fault =>
      rw [hparse] at h
      cases h
  | ok formula =>
      rw [hparse] at h
      exact ⟨formula, rfl, h⟩

lemma after_of_ok {result : Except SheetFault Sheet} (hs : P s)
    (hresult : ∀ next, result = .ok next → P next) : P (s.after result) := by
  cases result with
  | ok next => exact hresult next rfl
  | error fault => exact hs

namespace KeptByText

lemma writeRound (hP : KeptByText P) (entries : List (Location × String)) (hs : P s) :
    P (s.writeRound entries).1 := by
  induction entries generalizing s with
  | nil => exact hs
  | cons entry rest ih =>
      rw [Sheet.writeRound]
      cases hwrite : s.write entry.1 entry.2 with
      | ok next => exact ih (hP.write hs hwrite)
      | error fault => exact ih hs

/-- The rounds of writing all cells. Each is shorter than the one before. -/
lemma writeAll (hP : KeptByText P) {entries : List (Location × String)} (hs : P s)
    (hwrite : s.writeAll entries = .ok next) : P next := by
  fun_induction Sheet.writeAll s entries with
  | case1 s entries last hround =>
      have hlast := hP.writeRound entries hs
      rw [hround] at hlast
      rwa [← Except.ok.inj hwrite]
  | case2 s entries last entry fault rest hround hlength ih =>
      have hlast := hP.writeRound entries hs
      rw [hround] at hlast
      exact ih hlast hwrite
  | case3 s entries last entry fault rest hround hlength => cases hwrite

lemma load (hP : KeptByText P) {text : String} {count : Nat} (hs : P s)
    (hload : s.load text = .ok (next, count)) : P next := by
  rw [Sheet.load] at hload
  obtain ⟨⟨rows, columns⟩, -, hload⟩ := bind_eq_ok_iff.mp hload
  obtain ⟨entries, -, hload⟩ := bind_eq_ok_iff.mp hload
  obtain ⟨grown, hgrown, hload⟩ := bind_eq_ok_iff.mp hload
  obtain ⟨loaded, hloaded, hload⟩ := bind_eq_ok_iff.mp hload
  rw [← (Prod.mk.inj (Except.ok.inj hload)).1]
  exact hP.writeAll (hP.resize (hP.clear hs) (hgrown ▸ grows_resize _ _ _)) hloaded

lemma writeInto (hP : KeptByText P) {text : String} (cells : List Location) (hs : P s) :
    P (Life.writeInto text s cells).1 := by
  induction cells generalizing s with
  | nil => exact hs
  | cons cell rest ih =>
      rw [Life.writeInto]
      cases hwrite : s.write cell text with
      | ok next => exact ih (hP.write hs hwrite)
      | error fault => exact hs

lemma advance (hP : KeptByText P) (dying born : List Location) (hs : P s) :
    P (Life.advance s dying born).1 := by
  rw [Life.advance]
  have hfirst : P (Life.writeInto "" s dying).1 := hP.writeInto dying hs
  cases hdying : Life.writeInto "" s dying with
  | mk next result =>
      rw [hdying] at hfirst
      cases result with
      | ok => exact hP.writeInto born hfirst
      | error fault => exact hfirst

/-- What the four operations keep is kept by every step with texts. -/
theorem step (hP : KeptByText P) (hstep : TypedStep s next) (hs : P s) : P next := by
  cases hstep with
  | write cell text => exact after_of_ok hs fun next hnext => hP.write hs hnext
  | clear => exact hP.clear hs
  | resize h => exact after_of_ok hs fun next hnext => hP.resize hs (hnext ▸ h)
  | load text =>
      refine after_of_ok hs fun next hnext => ?_
      cases hload : s.load text with
      | error fault =>
          rw [hload] at hnext
          cases hnext
      | ok result =>
          rw [hload] at hnext
          rw [← Except.ok.inj hnext]
          exact hP.load hs hload
  | life hdying hborn => exact hP.advance _ _ hs
  | reorder h => exact hP.reorder hs h

/-- What new sheets have and the four operations keep is had by every sheet that is
reached with texts. -/
theorem typed (hP : KeptByText P)
    (hmake : ∀ {rows columns s}, t.make rows columns = .ok s → P s) (h : Typed t s) : P s := by
  induction h with
  | make h => exact hmake h
  | step _ hstep ih => exact hP.step hstep ih

end KeptByText

namespace Kept

/-- Texts are written by updates. -/
lemma byText (hP : Kept P) : KeptByText P where
  clear := hP.clear
  resize := hP.resize
  write := fun hs hwrite => by
    obtain ⟨formula, -, hupdate⟩ := write_eq_ok hwrite
    exact hP.update hs hupdate
  reorder := hP.reorder

/-- What the four operations keep is kept by every step. -/
theorem step (hP : Kept P) (hstep : Step s next) (hs : P s) : P next := by
  cases hstep with
  | update cell formula => exact after_of_ok hs fun next hnext => hP.update hs hnext
  | write cell text => exact hP.byText.step (.write cell text) hs
  | clear => exact hP.byText.step .clear hs
  | resize h => exact hP.byText.step (.resize h) hs
  | load text => exact hP.byText.step (.load text) hs
  | life hdying hborn => exact hP.byText.step (.life hdying hborn) hs
  | reorder h => exact hP.byText.step (.reorder h) hs

/-- What new sheets have and the four operations keep is had by every sheet that is
reached. -/
theorem reached (hP : Kept P) (hmake : ∀ {rows columns s}, t.make rows columns = .ok s → P s)
    (h : Reached t s) : P s := by
  induction h with
  | make h => exact hmake h
  | step _ hstep ih => exact hP.step hstep ih

end Kept

end Kept

/-! ### Every sheet that is reached -/

/-- Blank and built-ins stay those of the template. -/
lemma kept_template {t : Template} :
    Kept fun s => s.blank = t.blank ∧ s.builtins = t.builtins where
  clear := fun hs => hs
  resize := fun hs hgrows => by
    obtain ⟨-, _, _, ⟨users, rfl, -⟩, -, hnext⟩ := hgrows.eq_ok
    obtain ⟨staging, -, rfl⟩ := refresh_eq_ok hnext
    exact hs
  update := fun hs hupdate => by
    obtain ⟨-, -, _, -, rfl⟩ := update_eq_ok hupdate
    exact hs
  reorder := fun hs hnext => by
    obtain ⟨users, rfl, -⟩ := hnext
    exact hs

lemma kept_linked : Kept Linked where
  clear := fun hs => hs.clear
  resize := fun hs hgrows => hs.of_grows hgrows
  update := fun hs hupdate => hs.update hupdate
  reorder := fun hs hnext => hnext.linked hs

lemma kept_upToDate : Kept UpToDate where
  clear := fun hs => hs.clear
  resize := fun hs hgrows => hs.of_grows hgrows
  update := fun hs hupdate => (hs.of_update_eq_ok hupdate).2.2.1
  reorder := fun hs hnext => hnext.upToDate hs

/-- What a new sheet is made of. -/
lemma make_eq_ok {t : Template} {s : Sheet} {rows columns : Nat} (h : t.make rows columns = .ok s) :
    s.rows = rows ∧ s.columns = columns ∧ s.blank = t.blank ∧ s.builtins = t.builtins := by
  obtain ⟨-, -, -, rfl⟩ := make_eq_clear h
  exact ⟨rfl, rfl, rfl, rfl⟩

namespace Reached

variable {t : Template} {s : Sheet}

lemma template (h : Reached t s) : s.blank = t.blank ∧ s.builtins = t.builtins :=
  kept_template.reached (fun hmake => (make_eq_ok hmake).2.2) h

/-- Every sheet that is reached is linked, if blank cells mention nothing. -/
theorem linked (hblank : t.blank.names = []) (h : Reached t s) : s.Linked :=
  kept_linked.reached (linked_make hblank) h

/-- Every sheet that is reached is up to date, if blank cells are empty or hold a
number and no built-in mentions a cell. -/
theorem upToDate (hfree : FreeOfCells t.builtins)
    (hblank : t.blank = .empty ∨ ∃ n, t.blank = .const n) (h : Reached t s) : s.UpToDate :=
  kept_upToDate.reached (upToDate_make hfree hblank) h

/-- A sheet whose first cell mentions the second by another spelling of its name. -/
lemma exists_spelled : ∃ s, Reached ((Template.new .empty).bind "ten" (.const 10)) s ∧
    s.contains ⟨0, 0⟩ = true ∧ s.contains ⟨0, 1⟩ = true ∧
    s.formula? ⟨0, 0⟩ = some (.op .plus [.ref "B00", .const 1]) ∧
    s.value? ⟨0, 0⟩ = some (.const 11) := by
  have hmake : ((Template.new .empty).bind "ten" (.const 10)).make 1 2 = .ok _ := rfl
  refine ⟨_, .step (.step (.make hmake) (.write ⟨0, 1⟩ "ten")) (.write ⟨0, 0⟩ "B00 + 1"), ?_⟩
  decide +kernel

/-- **The links of a sheet are exact.** Whatever the operations were and whether or not
they succeeded, there are a formula, a value and users for exactly the cells of the
sheet, the users of a cell are the cells whose formulas mention it under any spelling,
and no cell depends on itself. -/
theorem links_exact (hblank : t.blank.dependencies = []) (h : Reached t s) :
    (1 ≤ s.rows ∧ 1 ≤ s.columns ∧ s.columns ≤ 26) ∧
    (∀ cell, (cell ∈ s.formulas ↔ s.contains cell = true) ∧
      (cell ∈ s.values ↔ s.contains cell = true) ∧ (cell ∈ s.users ↔ s.contains cell = true)) ∧
    (∀ target user, s.contains target = true →
      (user ∈ s.usersOf target ↔ ∃ formula, s.formula? user = some formula ∧
        ∃ name ∈ formula.dependencies, Location.ofName? name = some target)) ∧
    ∀ cell, ¬ TransGen (fun target user => user ∈ s.usersOf target) cell cell := by
  have hlinked := h.linked (Expr.names_eq_nil hblank)
  refine ⟨⟨hlinked.rows_pos, hlinked.columns_pos, hlinked.columns_le⟩,
    fun cell => ⟨hlinked.mem_formulas cell, hlinked.mem_values cell, hlinked.mem_users cell⟩,
    fun target user htarget => ?_, ?_⟩
  · rw [hlinked.mem_usersOf]
    constructor
    · rintro ⟨huser, name, hname, hcell⟩
      exact ⟨_, hlinked.formula?_eq huser, name, Expr.mem_dependencies.mpr hname,
        (Grid.cellOf?_eq_some_iff.mp hcell).1⟩
    · rintro ⟨formula, hformula, name, hname, hcell⟩
      refine ⟨(hlinked.mem_formulas user).mp (mem_of_getElem?_eq_some hformula), name, ?_,
        Grid.cellOf?_eq_some_iff.mpr ⟨hcell, htarget⟩⟩
      rw [grid_formula hformula]
      exact Expr.mem_dependencies.mp hname
  · have hedges : (fun target user => user ∈ s.usersOf target) = s.grid.Feeds :=
      hlinked.edge_usersOf
    rw [hedges]
    exact hlinked.acyclic

/-- In the sheet above, the second cell is linked to the first. -/
theorem links_exact_spelled : ∃ s, Reached ((Template.new .empty).bind "ten" (.const 10)) s ∧
    s.formula? ⟨0, 0⟩ = some (.op .plus [.ref "B00", .const 1]) ∧
    (⟨0, 0⟩ : Location) ∈ s.usersOf ⟨0, 1⟩ := by
  obtain ⟨s, hs, -, hcell, hformula, -⟩ := exists_spelled
  obtain ⟨-, -, husers, -⟩ := links_exact (by decide) hs
  refine ⟨s, hs, hformula, (husers ⟨0, 1⟩ ⟨0, 0⟩ hcell).mpr ⟨_, hformula, "B00", ?_⟩⟩
  decide +kernel

end Reached

/-! ### Values -/

/-- What a name stands for on a sheet: the value of the cell that it spells, under any
spelling, or else what the built-ins say. -/
def meaning? (s : Sheet) (name : String) : Option Expr :=
  match (Location.ofName? name).filter s.contains with
  | some cell => s.value? cell
  | none => s.builtins[name]?

variable {s : Sheet} {cell : Location}

lemma Linked.meaning?_eq (h : s.Linked) : s.meaning? = s.grid.meaning? s.current := by
  funext name
  rw [meaning?, Grid.meaning?]
  change (match s.grid.cellOf? name with | some cell => _ | none => _) = _
  cases hcell : s.grid.cellOf? name with
  | none => rfl
  | some cell => exact h.value?_eq (Grid.contains_of_cellOf? hcell)

lemma UpToDate.settled (h : s.UpToDate) (hcell : s.contains cell = true) :
    (s.current cell).Settled s.grid.Unbound :=
  Grid.worth_settled h.acyclic h.free hcell (h.worth_eq cell hcell)

lemma UpToDate.unbound_of_mention (h : s.UpToDate) {e : Expr} :
    ∀ name ∈ e.names, ∀ cell, s.grid.cellOf? name = some cell →
      ∀ id ∈ (s.current cell).names, s.grid.Unbound id :=
  fun _ _ _ hcell _ hid => (h.settled (Grid.contains_of_cellOf? hcell)).unbound_of_mem hid

/-- A table that says what names mean, as far as the evaluation of a cell's formula can
meet them, gives the formula the value of the cell. -/
lemma UpToDate.evaluate_eq (h : s.UpToDate) (hcell : s.contains cell = true) {table : SymbolTable}
    (htable : ∀ met, Expr.Meets s.meaning? (s.grid.formula cell) met →
      table[met]? = s.meaning? met) :
    (s.grid.formula cell).evaluate table = .ok (s.current cell) := by
  rw [h.meaning?_eq] at htable
  rw [← h.worth_eq cell hcell]
  refine (Grid.worth_eq_evaluate h.acyclic h.free hcell (fun source hfeeds => ?_) htable).symm
  exact h.worth_eq source hfeeds.contains

/-- There is such a table for every formula. -/
lemma UpToDate.exists_table (h : s.UpToDate) (formula : Expr) :
    ∃ table : SymbolTable, ∀ met, Expr.Meets s.meaning? formula met →
      table[met]? = s.meaning? met := by
  obtain ⟨hholds, hspelled⟩ := h.holds_symbols.bindSpellings h.toLinked formula
  refine ⟨s.bindSpellings formula s.symbols, fun met hmet => ?_⟩
  rw [h.meaning?_eq] at hmet ⊢
  exact hholds.getElem?_of_meets h.free h.unbound_of_mention hspelled hmet

/-- **Values are consistent with formulas.** Whatever the operations were and whether or
not they succeeded, each cell has a formula and a value, and the value is what the
formula evaluates to under any table that binds names to what they mean on the sheet:
cells to their values, under every spelling, and other names to their built-ins. There
always is such a table; only names that the evaluation can meet matter. A value is a
number, nothing, or a name of neither a cell nor a built-in. -/
theorem Reached.values_consistent {t : Template} (hfree : FreeOfCells t.builtins)
    (hblank : t.blank = .empty ∨ ∃ n, t.blank = .const n) (h : Reached t s) :
    ∀ cell, s.contains cell = true → ∃ formula value,
      s.formula? cell = some formula ∧ s.value? cell = some value ∧
      (∀ table : SymbolTable,
        (∀ met, Expr.Meets s.meaning? formula met → table[met]? = s.meaning? met) →
          formula.evaluate table = .ok value) ∧
      (∃ table : SymbolTable,
        ∀ met, Expr.Meets s.meaning? formula met → table[met]? = s.meaning? met) ∧
      ((∃ n, value = .const n) ∨ value = .empty ∨ ∃ name, value = .ref name ∧
        t.builtins[name]? = none ∧ (Location.ofName? name).filter s.contains = none) := by
  have hdate := h.upToDate hfree hblank
  intro cell hcell
  refine ⟨s.grid.formula cell, s.current cell, hdate.formula?_eq hcell, hdate.value?_eq hcell,
    fun table htable => hdate.evaluate_eq hcell htable, hdate.exists_table _, ?_⟩
  have hsettled := hdate.settled hcell
  cases hvalue : s.current cell with
  | const n => exact Or.inl ⟨n, rfl⟩
  | empty => exact Or.inr (Or.inl rfl)
  | ref name =>
      rw [hvalue] at hsettled
      exact Or.inr (Or.inr ⟨name, rfl, h.template.2 ▸ hsettled.2, hsettled.1⟩)
  | op operator es =>
      rw [hvalue] at hsettled
      exact absurd hsettled id

/-- In the sheet whose first cell mentions the second by another spelling, the formula
of the first cell evaluates to the value that the cell has. -/
theorem Reached.values_consistent_spelled :
    ∃ s, Reached ((Template.new .empty).bind "ten" (.const 10)) s ∧
      s.value? ⟨0, 0⟩ = some (.const 11) ∧
      ∃ table : SymbolTable,
        (Expr.op .plus [.ref "B00", .const 1]).evaluate table = .ok (.const 11) := by
  obtain ⟨s, hs, hcell, -, hformula, hvalue⟩ := exists_spelled
  obtain ⟨formula, value, hformula', hvalue', heval, ⟨table, htable⟩, -⟩ :=
    values_consistent (numeric_empty.insert "ten" 10).freeOfCells (Or.inl rfl) hs ⟨0, 0⟩ hcell
  rw [hformula, Option.some.injEq] at hformula'
  rw [hvalue, Option.some.injEq] at hvalue'
  subst hformula' hvalue'
  exact ⟨s, hs, hvalue, table, heval table htable⟩

end Spreadsheet.Sheet
