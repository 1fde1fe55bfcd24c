import Mathlib.Data.Finset.Card
import Mathlib.Logic.Function.Basic
import Mathlib.Logic.Relation
import Mathlib.Tactic
import Spreadsheet.Location
import Spreadsheet.Proofs.Expr.Lookup

/-!
Grids of formulas, and what their cells are worth from scratch.

A grid is what has been written into a sheet, without anything that is found from
it. A cell's formula may mention other cells, and `Grid.Feeds` is the relation that
arises: a cell feeds those whose formulas mention it, under any spelling.

* `Grid.worth` evaluates a cell from the formulas alone, by evaluating the cells
  that its formula mentions first. It keeps no values, and on a grid without cycles
  the worth of a cell is that of its formula (`worth_eq`);
* `worth_congr`: the worth of a cell is a matter of the formulas upstream of it;
* `acyclic_write_iff`: writing a formula closes a cycle exactly if it mentions the
  cell itself or one that the cell leads to;
* `worth_eq_evaluate`: once the cells that a formula mentions have their worth as
  values, evaluation under a table that says so about every name that it can meet
  finds the worth of the formula's own cell.
-/

namespace Spreadsheet

open Relation

/-- No binding mentions a cell: no name in it is the name of one. -/
def FreeOfCells (builtins : SymbolTable) : Prop :=
  ∀ (name : String) (e : Expr), builtins[name]? = some e → ∀ mentioned ∈ e.names,
    Location.ofName? mentioned = none

/-- Every binding is a number. -/
def Numeric (builtins : SymbolTable) : Prop :=
  ∀ (name : String) (e : Expr), builtins[name]? = some e → ∃ n, e = .const n

/-- Numbers mention nothing. -/
lemma Numeric.freeOfCells {builtins : SymbolTable} (h : Numeric builtins) :
    FreeOfCells builtins := by
  intro name e he mentioned hmentioned
  obtain ⟨n, rfl⟩ := h name e he
  rw [Expr.names] at hmentioned
  exact absurd hmentioned List.not_mem_nil

lemma numeric_empty : Numeric ∅ := by
  intro name e he
  simp at he

lemma Numeric.insert {builtins : SymbolTable} (h : Numeric builtins) (name : String) (n : Int64) :
    Numeric (builtins.insert name (.const n)) := by
  intro other e he
  rw [Std.TreeMap.getElem?_insert] at he
  split_ifs at he
  · exact ⟨n, (Option.some.inj he).symm⟩
  · exact h other e he

/-- A grid of formulas. -/
structure Grid where
  /-- The number of rows. -/
  rows : Nat
  /-- The number of columns. -/
  columns : Nat
  /-- What names other than those of cells stand for. -/
  builtins : SymbolTable
  /-- The formula of each cell. -/
  formula : Location → Expr

namespace Grid

/-- Whether a cell lies on the grid. -/
def contains (g : Grid) (cell : Location) : Bool :=
  decide (cell.row < g.rows) && decide (cell.column < g.columns)

/-- The cell of the grid that a name spells. -/
def cellOf? (g : Grid) (name : String) : Option Location :=
  (Location.ofName? name).filter g.contains

/-- What a name is worth, given what cells are worth. -/
def nameWorth (g : Grid) (worth : Location → Except EvalFault Expr) (name : String) :
    Except EvalFault Expr :=
  match g.cellOf? name with
  | some cell => worth cell
  | none => (Expr.ref name).evaluate g.builtins

/-- What a cell is worth, found from the formulas by going back through at most so
many cells. -/
def worthWithin (g : Grid) : Nat → Location → Except EvalFault Expr
  | 0, cell => .error (.circular cell.name)
  | depth + 1, cell => (g.formula cell).reduce (g.nameWorth (g.worthWithin depth))

/-- What a cell is worth, found from the formulas alone. -/
def worth (g : Grid) (cell : Location) : Except EvalFault Expr :=
  g.worthWithin (g.rows * g.columns) cell

/-- The formula of the second cell mentions the first, both lying on the grid. -/
def Feeds (g : Grid) (cell user : Location) : Prop :=
  g.contains user = true ∧ ∃ name ∈ (g.formula user).names, g.cellOf? name = some cell

/-- No cell depends on itself. -/
def Acyclic (g : Grid) : Prop :=
  ∀ cell, ¬ TransGen g.Feeds cell cell

/-- Every cell of the grid is worth something. -/
def Evaluates (g : Grid) : Prop :=
  ∀ cell, g.contains cell = true → ∃ value, g.worth cell = .ok value

/-- The name is neither that of a cell of the grid nor that of a built-in. -/
def Unbound (g : Grid) (name : String) : Prop :=
  g.cellOf? name = none ∧ g.builtins[name]? = none

/-- The grid with another formula in one cell. -/
def write (g : Grid) (cell : Location) (formula : Expr) : Grid :=
  { g with formula := Function.update g.formula cell formula }

/-- The grid with another size. Formulas beyond the edges come into sight. -/
def resize (g : Grid) (rows columns : Nat) : Grid :=
  { g with rows, columns }

variable {g h : Grid} {cell user : Location} {name : String}

/-! ### Cells and their names -/

lemma cellOf?_eq_some_iff :
    g.cellOf? name = some cell ↔ Location.ofName? name = some cell ∧ g.contains cell = true := by
  rw [cellOf?, Option.filter_eq_some_iff]

lemma cellOf?_eq_none (hname : Location.ofName? name = none) : g.cellOf? name = none := by
  rw [cellOf?, hname, Option.filter_none]

lemma contains_of_cellOf? (hname : g.cellOf? name = some cell) : g.contains cell = true :=
  (cellOf?_eq_some_iff.mp hname).2

lemma contains_iff : g.contains cell = true ↔ cell.row < g.rows ∧ cell.column < g.columns := by
  rw [contains, Bool.and_eq_true, decide_eq_true_eq, decide_eq_true_eq]

/-- A grid has as many cells as the product of its sides. -/
lemma length_gridCells (rows columns : Nat) : (gridCells rows columns).length = rows * columns := by
  simp [gridCells]

lemma mem_gridCells_iff : cell ∈ gridCells g.rows g.columns ↔ g.contains cell = true := by
  rw [mem_gridCells, contains_iff]

/-- What a built-in leads to never names a cell of the grid. -/
lemma cellOf?_of_meets (hfree : FreeOfCells g.builtins) {e : Expr} {met : String}
    (he : ∀ name ∈ e.names, g.cellOf? name = none)
    (hmet : Expr.Meets (fun name => g.builtins[name]?) e met) : g.cellOf? met = none := by
  induction hmet with
  | mention hname => exact he _ hname
  | follow _ hbinding _ ih => exact ih fun name hn => cellOf?_eq_none (hfree _ _ hbinding name hn)

lemma nameWorth_of_cellOf? {worth : Location → Except EvalFault Expr}
    (hname : g.cellOf? name = some cell) : g.nameWorth worth name = worth cell := by
  rw [nameWorth, hname]

lemma nameWorth_of_none {worth : Location → Except EvalFault Expr} (hname : g.cellOf? name = none) :
    g.nameWorth worth name = (Expr.ref name).evaluate g.builtins := by
  rw [nameWorth, hname]

/-! ### Grids without cycles -/

lemma Feeds.contains (hfeeds : g.Feeds cell user) : g.contains cell = true := by
  obtain ⟨-, name, -, hcell⟩ := hfeeds
  exact contains_of_cellOf? hcell

/-- No cell feeds one that mentions nothing. -/
lemma not_feeds_of_names (hnames : (g.formula user).names = []) : ¬ g.Feeds cell user := by
  rintro ⟨-, name, hname, -⟩
  rw [hnames] at hname
  exact absurd hname List.not_mem_nil

/-- Without cycles one can go back only finitely often. The cells upstream of a
cell become fewer with each step back. -/
lemma Acyclic.wellFounded (hg : g.Acyclic) : WellFounded g.Feeds := by
  classical
  let upstream (cell : Location) : Finset Location :=
    (gridCells g.rows g.columns).toFinset.filter fun other => TransGen g.Feeds other cell
  refine Subrelation.wf (r := InvImage (· < ·) fun cell => (upstream cell).card) ?_
    (InvImage.wf _ Nat.lt_wfRel.wf)
  intro cell user hfeeds
  refine Finset.card_lt_card (Finset.ssubset_iff_of_subset ?_ |>.mpr ⟨cell, ?_, ?_⟩)
  · intro other hother
    rw [Finset.mem_filter] at hother ⊢
    exact ⟨hother.1, hother.2.tail hfeeds⟩
  · rw [Finset.mem_filter, List.mem_toFinset, mem_gridCells_iff]
    exact ⟨hfeeds.contains, TransGen.single hfeeds⟩
  · rw [Finset.mem_filter]
    exact fun hself => hg cell hself.2

/-- The cells that a cell leads to along a path are fewer than those of the grid. -/
lemma Acyclic.length_lt (hg : g.Acyclic) {passed : List Location}
    (hcell : g.contains cell = true) (hnodup : passed.Nodup)
    (hpassed : ∀ p ∈ passed, g.contains p = true ∧ TransGen g.Feeds cell p) :
    cell ∉ passed ∧ passed.length < g.rows * g.columns := by
  have hfresh : cell ∉ passed := fun hmem => hg cell (hpassed cell hmem).2
  have hsub : cell :: passed ⊆ gridCells g.rows g.columns := by
    intro p hp
    rw [mem_gridCells_iff]
    rcases List.mem_cons.mp hp with rfl | hp
    · exact hcell
    · exact (hpassed p hp).1
  have hlength := ((List.nodup_cons.mpr ⟨hfresh, hnodup⟩).subperm hsub).length_le
  rw [length_gridCells] at hlength
  exact ⟨hfresh, hlength⟩

/-- On a grid without cycles the worth of a cell does not depend on how far back
one may go, as long as that and the cells passed on the way there together fill the
grid. -/
lemma worthWithin_congr (hg : g.Acyclic) {depth depth' : Nat} {passed : List Location}
    (hcell : g.contains cell = true) (hnodup : passed.Nodup)
    (hpassed : ∀ p ∈ passed, g.contains p = true ∧ TransGen g.Feeds cell p)
    (hdepth : g.rows * g.columns ≤ depth + passed.length)
    (hdepth' : g.rows * g.columns ≤ depth' + passed.length) :
    g.worthWithin depth cell = g.worthWithin depth' cell := by
  induction depth generalizing depth' cell passed with
  | zero =>
      have := (hg.length_lt hcell hnodup hpassed).2
      omega
  | succ depth ih =>
      obtain ⟨hfresh, hlength⟩ := hg.length_lt hcell hnodup hpassed
      obtain ⟨depth', rfl⟩ : ∃ d, depth' = d + 1 := Nat.exists_eq_add_one.mpr (by omega)
      rw [worthWithin, worthWithin]
      refine Expr.reduce_congr fun name hname => ?_
      rw [nameWorth, nameWorth]
      cases hsource : g.cellOf? name with
      | none => rfl
      | some source =>
          have hfeeds : g.Feeds source cell := ⟨hcell, name, hname, hsource⟩
          have hpassed' : ∀ p ∈ cell :: passed,
              g.contains p = true ∧ TransGen g.Feeds source p := by
            intro p hp
            rcases List.mem_cons.mp hp with rfl | hp
            · exact ⟨hcell, TransGen.single hfeeds⟩
            · exact ⟨(hpassed p hp).1, TransGen.head hfeeds (hpassed p hp).2⟩
          refine ih hfeeds.contains (List.nodup_cons.mpr ⟨hfresh, hnodup⟩) hpassed' ?_ ?_ <;>
            rw [List.length_cons] <;> omega

/-- On a grid without cycles a cell is worth what its formula is worth. -/
theorem worth_eq (hg : g.Acyclic) (hcell : g.contains cell = true) :
    g.worth cell = (g.formula cell).reduce (g.nameWorth g.worth) := by
  have hdeeper : g.worth cell = g.worthWithin (g.rows * g.columns + 1) cell :=
    worthWithin_congr hg hcell List.nodup_nil (by simp) (by simp) (by simp)
  rw [hdeeper, worthWithin]
  rfl

/-- Names are worth the same if the cells that they spell are. -/
lemma nameWorth_congr {worth worth' : Location → Except EvalFault Expr}
    (hbuiltins : g.builtins = h.builtins) (hname : g.cellOf? name = h.cellOf? name)
    (hworth : ∀ cell, g.cellOf? name = some cell → worth cell = worth' cell) :
    g.nameWorth worth name = h.nameWorth worth' name := by
  rw [nameWorth, nameWorth, ← hname, hbuiltins]
  cases hcell : g.cellOf? name with
  | none => rfl
  | some cell => exact hworth cell hcell

/-- The worth of a cell is a matter of the formulas of the cells upstream, and of
which cells their names spell. -/
theorem worth_congr (hg : g.Acyclic) (hh : h.Acyclic) (hbuiltins : g.builtins = h.builtins)
    (hcell : g.contains cell = true)
    (hsame : ∀ source, g.contains source = true → ReflTransGen g.Feeds source cell →
      h.contains source = true ∧ g.formula source = h.formula source ∧
        ∀ name ∈ (g.formula source).names, g.cellOf? name = h.cellOf? name) :
    g.worth cell = h.worth cell := by
  induction cell using hg.wellFounded.induction with
  | _ cell ih =>
      obtain ⟨hcell', hformula, hnames⟩ := hsame cell hcell ReflTransGen.refl
      rw [worth_eq hg hcell, worth_eq hh hcell', ← hformula]
      refine Expr.reduce_congr fun name hname => ?_
      refine nameWorth_congr hbuiltins (hnames name hname) fun source hsource => ?_
      have hfeeds : g.Feeds source cell := ⟨hcell, name, hname, hsource⟩
      exact ih source hfeeds hfeeds.contains fun other ho hpath =>
        hsame other ho (hpath.tail hfeeds)

/-- The worth of a cell is settled: it mentions no cell and no built-in. -/
theorem worth_settled (hg : g.Acyclic) (hfree : FreeOfCells g.builtins)
    (hcell : g.contains cell = true) {value : Expr} (hvalue : g.worth cell = .ok value) :
    value.Settled g.Unbound := by
  induction cell using hg.wellFounded.induction generalizing value with
  | _ cell ih =>
      rw [worth_eq hg hcell] at hvalue
      refine Expr.reduce_settled (fun name hname v hv => ?_) hvalue
      rw [nameWorth] at hv
      cases hsource : g.cellOf? name with
      | some source =>
          rw [hsource] at hv
          exact ih source ⟨hcell, name, hname, hsource⟩ (contains_of_cellOf? hsource) hv
      | none =>
          rw [hsource] at hv
          have hresolve : Expr.resolve g.builtins (g.builtins.size + 1) [] name = .ok v := hv
          have hsettled := Expr.resolve_settled hresolve
          cases v with
          | const n => trivial
          | empty => trivial
          | op operator es => exact hsettled
          | ref id =>
              refine ⟨cellOf?_of_meets hfree (fun name' hn => ?_) (Expr.meets_of_resolve hresolve),
                hsettled⟩
              rw [Expr.names, List.mem_singleton] at hn
              rwa [hn]

/-- On a grid without cycles nothing is circular, if all built-ins are numbers. -/
theorem worth_ne_circular (hg : g.Acyclic) (hnumeric : Numeric g.builtins)
    (hcell : g.contains cell = true) (id : String) : g.worth cell ≠ .error (.circular id) := by
  induction cell using hg.wellFounded.induction with
  | _ cell ih =>
      intro hcircular
      rw [worth_eq hg hcell] at hcircular
      -- the fault comes from a name in the formula: a cell upstream, or else a number
      obtain ⟨name, hname, hworth⟩ := Expr.reduce_eq_circular hcircular
      rw [nameWorth] at hworth
      cases hsource : g.cellOf? name with
      | some source =>
          rw [hsource] at hworth
          exact ih source ⟨hcell, name, hname, hsource⟩ (contains_of_cellOf? hsource) hworth
      | none =>
          rw [hsource] at hworth
          change Expr.resolve g.builtins (g.builtins.size + 1) [] name = _ at hworth
          rw [Expr.resolve] at hworth
          cases hbinding : g.builtins[name]? with
          | none =>
              rw [hbinding] at hworth
              cases hworth
          | some binding =>
              obtain ⟨n, rfl⟩ := hnumeric name binding hbinding
              simp [hbinding, Expr.reduce] at hworth

/-! ### Writing a formula -/

@[simp] lemma formula_write_self {formula : Expr} :
    (g.write cell formula).formula cell = formula :=
  Function.update_self ..

lemma formula_write_of_ne {formula : Expr} (hne : user ≠ cell) :
    (g.write cell formula).formula user = g.formula user :=
  Function.update_of_ne hne ..

lemma feeds_write_of_ne {formula : Expr} {source : Location} (hne : user ≠ cell) :
    (g.write cell formula).Feeds source user ↔ g.Feeds source user := by
  rw [Feeds, Feeds, formula_write_of_ne hne]
  rfl

/-- Of a path after a formula is written into a cell, the part from the last visit
of the cell on was there before. -/
lemma path_write {formula : Expr} {a b : Location}
    (hpath : TransGen (g.write cell formula).Feeds a b) :
    TransGen g.Feeds a b ∨
      ∃ via, (g.write cell formula).Feeds via cell ∧
        ReflTransGen (g.write cell formula).Feeds a via ∧ ReflTransGen g.Feeds cell b := by
  -- whenever the path enters the cell, what comes before is no longer needed
  induction hpath with
  | @single b hfeeds =>
      by_cases hb : b = cell
      · subst hb
        exact Or.inr ⟨a, hfeeds, ReflTransGen.refl, ReflTransGen.refl⟩
      · exact Or.inl (TransGen.single ((feeds_write_of_ne hb).mp hfeeds))
  | @tail via b hpath hfeeds ih =>
      by_cases hb : b = cell
      · subst hb
        exact Or.inr ⟨via, hfeeds, hpath.to_reflTransGen, ReflTransGen.refl⟩
      · have hfeeds' := (feeds_write_of_ne hb).mp hfeeds
        rcases ih with ih | ⟨last, hlast, hto, hfrom⟩
        · exact Or.inl (ih.tail hfeeds')
        · exact Or.inr ⟨last, hlast, hto, hfrom.tail hfeeds'⟩

/-- What a cell leads to is the same after another formula is written into it. -/
lemma leads_write {formula : Expr} (hg : g.Acyclic) {b : Location}
    (hpath : TransGen g.Feeds cell b) : TransGen (g.write cell formula).Feeds cell b := by
  have hne : ∀ {b}, TransGen g.Feeds cell b → b ≠ cell := fun hpath hb => hg cell (hb ▸ hpath)
  induction hpath with
  | single hfeeds =>
      exact TransGen.single ((feeds_write_of_ne (hne (TransGen.single hfeeds))).mpr hfeeds)
  | tail hpath hfeeds ih =>
      exact ih.tail ((feeds_write_of_ne (hne (hpath.tail hfeeds))).mpr hfeeds)

/-- Writing a formula into a cell of a grid without cycles closes none exactly if
the formula mentions neither the cell nor any that depends on it. -/
theorem acyclic_write_iff {formula : Expr} (hg : g.Acyclic) :
    (g.write cell formula).Acyclic ↔
      ∀ via, (g.write cell formula).Feeds via cell → via ≠ cell ∧ ¬ TransGen g.Feeds cell via := by
  constructor
  · intro hacyclic via hvia
    refine ⟨?_, fun hpath => hacyclic cell ((leads_write hg hpath).tail hvia)⟩
    rintro rfl
    exact hacyclic via (TransGen.single hvia)
  · intro hfree other hcycle
    -- the cycle passes through the cell, and from there back to where it enters the cell
    rcases path_write hcycle with hold | ⟨via, hvia, hto, hfrom⟩
    · exact hg other hold
    · have hback : ∃ via, (g.write cell formula).Feeds via cell ∧
          ReflTransGen g.Feeds cell via := by
        rcases reflTransGen_iff_eq_or_transGen.mp hto with rfl | hto
        · exact ⟨via, hvia, hfrom⟩
        · rcases path_write hto with hold | ⟨last, -, -, hlast⟩
          · exact ⟨via, hvia, hfrom.trans hold.to_reflTransGen⟩
          · exact ⟨via, hvia, hlast⟩
      obtain ⟨via, hvia, hpath⟩ := hback
      obtain ⟨hne, hleads⟩ := hfree via hvia
      exact hleads ((reflTransGen_iff_eq_or_transGen.mp hpath).resolve_left hne)

/-! ### Evaluation against values -/

/-- What names stand for if cells have the given values. -/
def meaning? (g : Grid) (value : Location → Expr) (name : String) : Option Expr :=
  match g.cellOf? name with
  | some cell => some (value cell)
  | none => g.builtins[name]?

lemma meaning?_of_cellOf? {value : Location → Expr} (hname : g.cellOf? name = some cell) :
    g.meaning? value name = some (value cell) := by
  rw [meaning?, hname]

lemma meaning?_of_none {value : Location → Expr} (hname : g.cellOf? name = none) :
    g.meaning? value name = g.builtins[name]? := by
  rw [meaning?, hname]

/-- What the evaluation of built-ins can meet, it can meet among the meanings of
names. -/
lemma meets_meaning? {value : Location → Expr} (hfree : FreeOfCells g.builtins) {e : Expr}
    {met : String} (he : ∀ name ∈ e.names, g.cellOf? name = none)
    (hmet : Expr.Meets (fun name => g.builtins[name]?) e met) :
    Expr.Meets (g.meaning? value) e met := by
  induction hmet with
  | mention hname => exact Expr.Meets.mention hname
  | @follow e binding name met hname hbinding _ ih =>
      refine Expr.Meets.follow hname ?_ (ih fun name hn =>
        cellOf?_eq_none (hfree _ _ hbinding name hn))
      rwa [meaning?_of_none (he name hname)]

/-- Against values that mention nothing bound an evaluation meets, besides the names of the
expression, only names of no cell. -/
lemma cellOf?_of_meets_meaning? {value : Location → Expr} (hfree : FreeOfCells g.builtins)
    {e : Expr} {met : String}
    (hunbound : ∀ name ∈ e.names, ∀ cell, g.cellOf? name = some cell →
      ∀ id ∈ (value cell).names, g.Unbound id)
    (hmet : Expr.Meets (g.meaning? value) e met) : met ∈ e.names ∨ g.cellOf? met = none := by
  induction hmet with
  | mention hname => exact Or.inl hname
  | @follow e binding name met hname hbinding _ ih =>
      have hfar : ∀ other ∈ binding.names, g.cellOf? other = none := by
        intro other hother
        cases hcell : g.cellOf? name with
        | none =>
            rw [meaning?_of_none hcell] at hbinding
            exact cellOf?_eq_none (hfree _ _ hbinding other hother)
        | some cell =>
            rw [meaning?_of_cellOf? hcell, Option.some.injEq] at hbinding
            exact (hunbound name hname cell hcell other (hbinding ▸ hother)).1
      refine Or.inr ((ih fun other hother cell hcell => ?_).elim (hfar met) id)
      rw [hfar other hother] at hcell
      cases hcell

/-- A table that says the same as the values of cells and the built-ins, about every
name that the evaluation can meet, gives an expression the worth that it has by its
names, if the values mention nothing bound. -/
theorem evaluate_eq_reduce {value : Location → Expr} {table : SymbolTable} {e : Expr}
    (hfree : FreeOfCells g.builtins)
    (hunbound : ∀ name ∈ e.names, ∀ cell, g.cellOf? name = some cell →
      ∀ id ∈ (value cell).names, g.Unbound id)
    (htable : ∀ met, Expr.Meets (g.meaning? value) e met → table[met]? = g.meaning? value met) :
    e.evaluate table = e.reduce (g.nameWorth fun cell => (value cell).selfWorth) := by
  refine Expr.reduce_congr fun name hname => ?_
  have hself := htable name (Expr.Meets.mention hname)
  rw [nameWorth]
  cases hcell : g.cellOf? name with
  -- a cell, whose value is worth the same here and by itself
  | some cell =>
      rw [meaning?_of_cellOf? hcell] at hself
      have hpos : 0 < table.size :=
        ((Expr.DeepEnough.start table).cons (mem_of_getElem?_eq_some hself) List.not_mem_nil).pos
      rw [Expr.resolve, hself]
      refine Expr.reduce_of_unbound hpos fun id hid => ?_
      obtain ⟨hnone, hbuiltin⟩ := hunbound name hname cell hcell id hid
      have hmeaning : g.meaning? value id = none := by rw [meaning?_of_none hnone, hbuiltin]
      have hmet : Expr.Meets (g.meaning? value) e id :=
        .follow hname (meaning?_of_cellOf? hcell) (.mention hid)
      rw [htable id hmet, hmeaning]
  -- no cell, so that the table says what the built-ins say on all that is met
  | none =>
      refine (Expr.resolve_congr (Expr.DeepEnough.start _) (Expr.DeepEnough.start _) ?_).symm
      intro met hmet
      have hfar : ∀ name' ∈ (Expr.ref name).names, g.cellOf? name' = none := by
        simp [Expr.names, hcell]
      rw [htable met ((meets_meaning? hfree hfar hmet).of_ref hname),
        meaning?_of_none (cellOf?_of_meets hfree hfar hmet)]

/-- The worth of a cell is what its formula evaluates to once the cells that it
mentions have their worth as values. -/
theorem worth_eq_evaluate {value : Location → Expr} {table : SymbolTable} (hg : g.Acyclic)
    (hfree : FreeOfCells g.builtins) (hcell : g.contains cell = true)
    (hvalue : ∀ source, g.Feeds source cell → g.worth source = .ok (value source))
    (htable : ∀ met, Expr.Meets (g.meaning? value) (g.formula cell) met →
      table[met]? = g.meaning? value met) :
    g.worth cell = (g.formula cell).evaluate table := by
  have hsource : ∀ name ∈ (g.formula cell).names, ∀ source, g.cellOf? name = some source →
      g.worth source = .ok (value source) :=
    fun name hname source hsource => hvalue source ⟨hcell, name, hname, hsource⟩
  have hsettled : ∀ name ∈ (g.formula cell).names, ∀ source, g.cellOf? name = some source →
      (value source).Settled g.Unbound := fun name hname source hcell' =>
    worth_settled hg hfree (contains_of_cellOf? hcell') (hsource name hname source hcell')
  calc g.worth cell
      = (g.formula cell).reduce (g.nameWorth g.worth) := worth_eq hg hcell
    _ = (g.formula cell).reduce (g.nameWorth fun source => (value source).selfWorth) := by
        refine Expr.reduce_congr fun name hname => nameWorth_congr rfl rfl fun source hcell' => ?_
        rw [hsource name hname source hcell', (hsettled name hname source hcell').selfWorth_eq]
    _ = (g.formula cell).evaluate table :=
        (evaluate_eq_reduce hfree (fun name hname source hcell' _ hid =>
          (hsettled name hname source hcell').unbound_of_mem hid) htable).symm

end Grid

end Spreadsheet
