import Mathlib.Tactic
import Spreadsheet.Proofs.Sheet.Linked

/-!
What the evaluation of a cell and its dependents finds.

Staging evaluates cells one after the other against one table of symbols, in which
each new value replaces the old one. `Holds` says what the table has to do with the
values of the cells, `stage_eq_worth` that one cell is evaluated to its worth if those
that feed it have theirs, and from these

* `stageAll_spec`: cells in an order of dependence, beyond which all values are
  right, get the worth that they have from scratch. Staging fails exactly if one of
  them is worth nothing, and then with the fault of such a cell. A value is right as
  well if it is an expression that has not been evaluated yet (`Tells`).
-/

namespace Spreadsheet.Sheet

variable {s : Sheet} {cell : Location} {formula : Expr} {value : Location → Expr}
  {table : SymbolTable}

/-- The value of a cell; cells that are not on the sheet are blank. -/
def current (s : Sheet) (cell : Location) : Expr :=
  (s.value? cell).getD s.blank

lemma current_eq {v : Expr} (h : s.value? cell = some v) : s.current cell = v := by
  rw [current, h, Option.getD_some]

/-! ### The table of symbols -/

/-- The table holds the given values of cells: the name of each cell is bound to its
value, and a name that spells no cell to what the built-ins say. What other
spellings of cells are bound to is left open. -/
structure Holds (s : Sheet) (value : Location → Expr) (table : SymbolTable) : Prop where
  cell : ∀ cell, s.contains cell = true → table[cell.name]? = some (value cell)
  other : ∀ name, s.grid.cellOf? name = none → table[name]? = s.builtins[name]?

/-- The table binds the name to the value of the cell that it spells, if any. -/
def Spelled (s : Sheet) (value : Location → Expr) (table : SymbolTable) (name : String) : Prop :=
  ∀ cell, s.grid.cellOf? name = some cell → table[name]? = some (value cell)

/-- Values are those of cells of the sheet. -/
lemma Linked.contains_of_mem_values (h : s.Linked) {entry : Location × Expr}
    (hentry : entry ∈ s.values.toList) : s.contains entry.1 = true :=
  (h.mem_values entry.1).mp
    (mem_of_getElem?_eq_some (Std.TreeMap.mem_toList_iff_getElem?_eq_some.mp hentry))

/-- No two values are those of cells with the same name. -/
lemma Linked.nodup_names (h : s.Linked) :
    (s.values.toList.map fun entry => entry.1.name).Nodup := by
  have hkeys : (s.values.toList.map Prod.fst).Nodup := by
    rw [Std.TreeMap.map_fst_toList_eq_keys]
    exact Std.TreeMap.nodup_keys
  have hnames : (s.values.toList.map fun entry => entry.1.name)
      = (s.values.toList.map Prod.fst).map Location.name := by
    rw [List.map_map]
    rfl
  rw [hnames]
  refine hkeys.map_on fun a ha b hb hname => ?_
  obtain ⟨entry, hentry, rfl⟩ := List.mem_map.mp ha
  obtain ⟨entry', hentry', rfl⟩ := List.mem_map.mp hb
  exact h.name_injective (h.contains_of_mem_values hentry) (h.contains_of_mem_values hentry') hname

/-- At first the table holds the values of the sheet. -/
lemma Linked.holds_symbols (h : s.Linked) : s.Holds s.current s.symbols := by
  have hsymbols : s.symbols = s.values.toList.foldl
      (fun table entry => table.insert entry.1.name entry.2) s.builtins :=
    Std.TreeMap.foldl_eq_foldl_toList
  constructor
  · intro cell hcell
    obtain ⟨v, hv⟩ := h.exists_value hcell
    have hentry : (cell, v) ∈ s.values.toList :=
      Std.TreeMap.mem_toList_iff_getElem?_eq_some.mpr hv
    rw [hsymbols, current_eq hv]
    -- cells of the sheet have different names, so that no entry covers another one
    exact getElem?_foldl_insert_of_mem (fun entry : Location × Expr => entry.1.name) Prod.snd
      s.builtins h.nodup_names hentry
  · intro name hname
    rw [hsymbols]
    refine getElem?_foldl_insert_of_notMem (fun entry : Location × Expr => entry.1.name) Prod.snd
      s.builtins fun hmem => ?_
    obtain ⟨entry, hentry, rfl⟩ := List.mem_map.mp hmem
    rw [h.cellOf?_name (h.contains_of_mem_values hentry)] at hname
    cases hname

/-- Entering a value for a cell. -/
lemma Holds.insert (hholds : s.Holds value table) (h : s.Linked) (hcell : s.contains cell = true)
    (v : Expr) : s.Holds (Function.update value cell v) (table.insert cell.name v) := by
  constructor
  · intro other hother
    rw [Std.TreeMap.getElem?_insert]
    by_cases hne : other = cell
    · rw [hne, Function.update_self, if_pos Std.ReflCmp.compare_self]
    · have hname : cell.name ≠ other.name := fun hname =>
        hne (h.name_injective hother hcell hname.symm)
      rw [Function.update_of_ne hne, if_neg (by simpa using hname), hholds.cell other hother]
  · intro name hname
    rw [Std.TreeMap.getElem?_insert, if_neg, hholds.other name hname]
    rw [Std.LawfulEqCmp.compare_eq_iff_eq]
    rintro rfl
    rw [h.cellOf?_name hcell] at hname
    cases hname

/-! ### Other spellings -/

/-- Binds one name as `bindSpellings` does. -/
def bindSpelling (s : Sheet) (table : SymbolTable) (name : String) : SymbolTable :=
  match Location.ofName? name with
  | none => table
  | some cell =>
      if cell.name = name || !s.contains cell then table
      else match table[cell.name]? with
        | some value => table.insert name value
        | none => table

/-- A value of a cell may be entered under another spelling: the names of cells are different from
it, and so are the names that spell no cell. -/
lemma Holds.insertSpelling (hholds : s.Holds value table) (h : s.Linked) {name : String}
    (hspells : s.grid.cellOf? name = some cell) (hother : cell.name ≠ name) :
    s.Holds value (table.insert name (value cell)) := by
  constructor
  · intro c hc
    have hne : name ≠ c.name := by
      rintro rfl
      rw [h.cellOf?_name hc, Option.some.injEq] at hspells
      exact hother (congrArg Location.name hspells.symm)
    rw [Std.TreeMap.getElem?_insert, if_neg (by simpa using hne), hholds.cell c hc]
  · intro id hid
    have hne : name ≠ id := by
      rintro rfl
      rw [hspells] at hid
      cases hid
    rw [Std.TreeMap.getElem?_insert, if_neg (by simpa using hne), hholds.other id hid]

/-- Whatever spelling the value of a cell is entered under, others stay bound. -/
lemma Spelled.insertSpelling {name other : String} (hother : s.Spelled value table other)
    (hspells : s.grid.cellOf? name = some cell) :
    s.Spelled value (table.insert name (value cell)) other := by
  intro c hc
  rw [Std.TreeMap.getElem?_insert]
  split_ifs with heq
  · rw [Std.LawfulEqCmp.compare_eq_iff_eq] at heq
    rw [heq, hc, Option.some.injEq] at hspells
    rw [hspells]
  · exact hother c hc

/-- Binding a spelling gives the name the value of its cell and changes nothing
else that matters. -/
lemma Holds.bindSpelling (hholds : s.Holds value table) (h : s.Linked) (name : String) :
    s.Holds value (s.bindSpelling table name) ∧ s.Spelled value (s.bindSpelling table name) name ∧
      ∀ other, s.Spelled value table other → s.Spelled value (s.bindSpelling table name) other := by
  rw [Sheet.bindSpelling]
  cases hname : Location.ofName? name with
  | none =>
      refine ⟨hholds, fun cell hcell => ?_, fun _ hother => hother⟩
      rw [Grid.cellOf?_eq_none hname] at hcell
      cases hcell
  | some cell =>
      dsimp only
      have hcell : ∀ other, s.grid.cellOf? name = some other →
          other = cell ∧ s.contains cell = true := by
        intro other hother
        obtain ⟨hother, hcontains⟩ := Grid.cellOf?_eq_some_iff.mp hother
        rw [hname, Option.some.injEq] at hother
        exact ⟨hother.symm, hother ▸ hcontains⟩
      split_ifs with hskip
      -- the table stays: the name is the cell's own, or its cell is not on the sheet
      · refine ⟨hholds, fun other hother => ?_, fun _ hother => hother⟩
        obtain ⟨rfl, hcontains⟩ := hcell other hother
        simp only [hcontains, Bool.not_true, Bool.or_false, decide_eq_true_eq] at hskip
        rw [← hskip]
        exact hholds.cell _ hcontains
      -- another spelling of a cell of the sheet
      · rw [Bool.or_eq_true, not_or, decide_eq_true_eq, Bool.not_eq_true', Bool.not_eq_false]
          at hskip
        have hspells : s.grid.cellOf? name = some cell :=
          Grid.cellOf?_eq_some_iff.mpr ⟨hname, hskip.2⟩
        rw [hholds.cell cell hskip.2]
        refine ⟨hholds.insertSpelling h hspells hskip.1, fun other hother => ?_,
          fun _ hother => hother.insertSpelling hspells⟩
        rw [Std.TreeMap.getElem?_insert_self, (hcell other hother).1]

/-- When a formula is evaluated, all names in it that spell cells are bound to the
values of these cells. -/
lemma Holds.bindSpellings (hholds : s.Holds value table) (h : s.Linked) (formula : Expr) :
    s.Holds value (s.bindSpellings formula table) ∧
      ∀ name ∈ formula.names, s.Spelled value (s.bindSpellings formula table) name := by
  -- the invariant: what has been bound stays bound
  suffices hall : ∀ names : List String, ∀ table, s.Holds value table →
      s.Holds value (names.foldl s.bindSpelling table) ∧
        (∀ name, s.Spelled value table name →
          s.Spelled value (names.foldl s.bindSpelling table) name) ∧
        ∀ name ∈ names, s.Spelled value (names.foldl s.bindSpelling table) name by
    obtain ⟨hholds', -, hnames⟩ := hall formula.dependencies table hholds
    exact ⟨hholds', fun name hname => hnames name (Expr.mem_dependencies.mpr hname)⟩
  intro names
  induction names with
  | nil => exact fun table hholds => ⟨hholds, fun _ hname => hname, by simp⟩
  | cons first rest ih =>
      intro table hholds
      obtain ⟨hholds', hfirst, hkeep⟩ := hholds.bindSpelling h first
      obtain ⟨hlast, hkeep', hrest⟩ := ih _ hholds'
      refine ⟨hlast, fun name hname => hkeep' name (hkeep name hname), fun name hname => ?_⟩
      rcases List.mem_cons.mp hname with rfl | hname
      · exact hkeep' _ hfirst
      · exact hrest name hname

/-! ### One cell -/

/-- A table that holds the values of cells, with all spellings in a formula bound,
says about every name that the evaluation of the formula can meet what the name
means. -/
lemma Holds.getElem?_of_meets (hholds : s.Holds value table) (hfree : FreeOfCells s.builtins)
    (hunbound : ∀ name ∈ formula.names, ∀ cell, s.grid.cellOf? name = some cell →
      ∀ id ∈ (value cell).names, s.grid.Unbound id)
    (hspelled : ∀ name ∈ formula.names, s.Spelled value table name) {met : String}
    (hmet : Expr.Meets (s.grid.meaning? value) formula met) :
    table[met]? = s.grid.meaning? value met := by
  cases hcell : s.grid.cellOf? met with
  | none =>
      rw [hholds.other met hcell, Grid.meaning?_of_none hcell]
      rfl
  | some cell =>
      have hmention := Grid.cellOf?_of_meets_meaning? hfree hunbound hmet
      rw [hcell, or_iff_left (by simp)] at hmention
      rw [hspelled met hmention cell hcell, Grid.meaning?_of_cellOf? hcell]

/-- Staging a cell evaluates its formula by what its names are worth, and enters the
result. -/
lemma stage_eq (h : s.Linked) (hfree : FreeOfCells s.builtins) {staging : Staging}
    (hholds : s.Holds value staging.table)
    (hunbound : ∀ name ∈ formula.names, ∀ cell, s.grid.cellOf? name = some cell →
      ∀ id ∈ (value cell).names, s.grid.Unbound id) :
    s.stage staging cell formula =
      (formula.reduce (s.grid.nameWorth fun cell => (value cell).selfWorth)).map fun v =>
        ⟨(s.bindSpellings formula staging.table).insert cell.name v,
          staging.values ++ [(cell, v)]⟩ := by
  obtain ⟨hbound, hspelled⟩ := hholds.bindSpellings h formula
  rw [stage, Grid.evaluate_eq_reduce hfree hunbound fun met hmet =>
    hbound.getElem?_of_meets hfree hunbound hspelled hmet]
  cases formula.reduce (s.grid.nameWorth fun cell => (value cell).selfWorth) <;> rfl

/-- Staging a cell adds one value, that of the cell. -/
lemma stage_values {staging last : Staging} (h : s.stage staging cell formula = .ok last) :
    last.values.map Prod.fst = staging.values.map Prod.fst ++ [cell] := by
  rw [stage] at h
  obtain ⟨v, -, hlast⟩ := bind_eq_ok_iff.mp h
  rw [← Except.ok.inj hlast, List.map_append]
  rfl

/-! ### All cells -/

/-- Evaluates the given formulas of cells, one cell after the other. -/
def stageAll (s : Sheet) (formulas : Location → Expr) (order : List Location)
    (staging : Staging) : Except EvalFault Staging :=
  order.foldlM (fun staging cell => s.stage staging cell (formulas cell)) staging

lemma stageAll_cons {formulas : Location → Expr} {rest : List Location} {staging : Staging} :
    s.stageAll formulas (cell :: rest) staging =
      (s.stage staging cell (formulas cell) >>= s.stageAll formulas rest) := by
  rw [stageAll, List.foldlM_cons]
  rfl

/-- The dependents of cells are evaluated by the formulas that they have. -/
lemma stageDependents_eq {formulas : Location → Expr} {sources : List Location}
    {staging : Staging}
    (h : ∀ cell ∈ s.evaluationOrder sources, s.formula? cell = some (formulas cell)) :
    s.stageDependents sources staging
      = s.stageAll formulas (s.evaluationOrder sources) staging := by
  rw [stageDependents, stageAll]
  generalize s.evaluationOrder sources = order at h
  induction order generalizing staging with
  | nil => rfl
  | cons first rest ih =>
      rw [List.foldlM_cons, List.foldlM_cons, h first List.mem_cons_self]
      dsimp only
      cases s.stage staging first (formulas first) with
      | error fault => rfl
      | ok next => exact ih fun cell hcell => h cell (List.mem_cons_of_mem _ hcell)

/-- The value says what the cell is worth: it mentions nothing bound, and by itself it is worth
what the cell is. This allows for a value that has not been evaluated yet. -/
structure Tells (g : Grid) (cell : Location) (v : Expr) : Prop where
  unbound : ∀ id ∈ v.names, g.Unbound id
  worth_eq : g.worth cell = v.selfWorth

/-- The worth of a cell says so. -/
lemma tells_of_worth {g : Grid} (hg : g.Acyclic) (hfree : FreeOfCells g.builtins)
    (hcell : g.contains cell = true) {v : Expr} (h : g.worth cell = .ok v) : Tells g cell v := by
  have hsettled := Grid.worth_settled hg hfree hcell h
  exact ⟨fun _ hid => hsettled.unbound_of_mem hid, by rw [h, hsettled.selfWorth_eq]⟩

/-- A cell is staged with its worth, once the values of the cells that feed it tell theirs. -/
lemma stage_eq_worth (h : s.Linked) (hfree : FreeOfCells s.builtins)
    {formulas : Location → Expr} {staging : Staging}
    (hacyclic : { s.grid with formula := formulas }.Acyclic) (hcell : s.contains cell = true)
    (hinputs : ∀ source, { s.grid with formula := formulas }.Feeds source cell →
      Tells { s.grid with formula := formulas } source (value source))
    (hholds : s.Holds value staging.table) :
    s.stage staging cell (formulas cell) =
      ({ s.grid with formula := formulas }.worth cell).map fun v =>
        ⟨(s.bindSpellings (formulas cell) staging.table).insert cell.name v,
          staging.values ++ [(cell, v)]⟩ := by
  set g : Grid := { s.grid with formula := formulas } with hg
  have htells : ∀ name ∈ (formulas cell).names, ∀ source, g.cellOf? name = some source →
      Tells g source (value source) :=
    fun name hname source hsource => hinputs source ⟨hcell, name, hname, hsource⟩
  have hreduce : g.worth cell =
      (formulas cell).reduce (s.grid.nameWorth fun cell => (value cell).selfWorth) := by
    rw [Grid.worth_eq hacyclic hcell]
    refine Expr.reduce_congr fun name hname => ?_
    exact Grid.nameWorth_congr rfl rfl fun source hsource =>
      (htells name hname source hsource).worth_eq
  rw [stage_eq h hfree hholds fun name hname source hsource =>
    (htells name hname source hsource).unbound, hreduce]

/-- Staging adds values for the given cells, in their order. -/
lemma stageAll_values {formulas : Location → Expr} {order : List Location}
    {staging last : Staging} (h : s.stageAll formulas order staging = .ok last) :
    last.values.map Prod.fst = staging.values.map Prod.fst ++ order := by
  induction order generalizing staging with
  | nil =>
      have hlast : staging = last := Except.ok.inj h
      rw [hlast, List.append_nil]
  | cons first rest ih =>
      rw [stageAll_cons, bind_eq_ok_iff] at h
      obtain ⟨next, hnext, hrest⟩ := h
      rw [ih hrest, stage_values hnext, List.append_assoc, List.singleton_append]

/-- Values that have been found stay. -/
lemma prefix_of_stageAll {formulas : Location → Expr} {order : List Location}
    {staging last : Staging} (h : s.stageAll formulas order staging = .ok last) :
    staging.values <+: last.values := by
  induction order generalizing staging with
  | nil =>
      have hlast : staging = last := Except.ok.inj h
      rw [hlast]
  | cons first rest ih =>
      rw [stageAll_cons, bind_eq_ok_iff] at h
      obtain ⟨next, hnext, hrest⟩ := h
      rw [stage] at hnext
      obtain ⟨v, -, hv⟩ := bind_eq_ok_iff.mp hnext
      refine List.IsPrefix.trans ?_ (ih hrest)
      rw [← Except.ok.inj hv]
      exact List.prefix_append _ _

/-- **Staging finds the values from scratch.** Let the cells to be evaluated come in
an order of dependence, and let the value of every other cell tell its worth already. Then staging
ends with the worth of each cell, or with the fault of a cell that is worth
nothing. -/
theorem stageAll_spec (h : s.Linked) (hfree : FreeOfCells s.builtins)
    {formulas : Location → Expr} {order : List Location} (staging : Staging)
    (hacyclic : { s.grid with formula := formulas }.Acyclic)
    (hcontains : ∀ cell ∈ order, s.contains cell = true) (hnodup : order.Nodup)
    (horder : order.Pairwise fun a b => ¬ { s.grid with formula := formulas }.Feeds b a)
    (hrest : ∀ cell, s.contains cell = true → cell ∉ order →
      Tells { s.grid with formula := formulas } cell (value cell))
    (hholds : s.Holds value staging.table) :
    (∃ (last : Staging) (worth : Location → Expr), s.stageAll formulas order staging = .ok last ∧
      (∀ cell ∈ order, { s.grid with formula := formulas }.worth cell = .ok (worth cell)) ∧
      last.values = staging.values ++ order.map fun cell => (cell, worth cell)) ∨
    ∃ fault, s.stageAll formulas order staging = .error fault ∧
      ∃ cell ∈ order, { s.grid with formula := formulas }.worth cell = .error fault := by
  -- from the first cell on: its worth replaces its value before the others are staged
  induction order generalizing staging value with
  | nil => exact Or.inl ⟨staging, value, rfl, by simp, by simp⟩
  | cons first rest ih =>
      set g : Grid := { s.grid with formula := formulas } with hg
      have hfirst := hcontains first List.mem_cons_self
      rw [List.nodup_cons] at hnodup
      rw [List.pairwise_cons] at horder
      -- what feeds the cell comes neither later in the order nor is it the cell itself
      have hinputs : ∀ source, g.Feeds source first → Tells g source (value source) := by
        intro source hfeeds
        refine hrest source hfeeds.contains fun hmem => ?_
        rcases List.mem_cons.mp hmem with rfl | hmem
        · exact hacyclic _ (Relation.TransGen.single hfeeds)
        · exact horder.1 source hmem hfeeds
      rw [stageAll_cons, stage_eq_worth h hfree hacyclic hfirst hinputs hholds]
      cases hv : g.worth first with
      | error fault => exact Or.inr ⟨fault, rfl, first, List.mem_cons_self, hv⟩
      | ok v =>
          have hholds' := (hholds.bindSpellings h (formulas first)).1.insert h hfirst v
          -- with its worth in the table, the cell is one of those whose values tell theirs
          have hrest' : ∀ cell, s.contains cell = true → cell ∉ rest →
              Tells g cell (Function.update value first v cell) := by
            intro cell hcell hmem
            by_cases hne : cell = first
            · rw [hne, Function.update_self]
              exact tells_of_worth hacyclic hfree hfirst hv
            · rw [Function.update_of_ne hne]
              exact hrest cell hcell (by simp [hne, hmem])
          rcases ih ⟨_, staging.values ++ [(first, v)]⟩
            (fun cell hcell => hcontains cell (List.mem_cons_of_mem _ hcell)) hnodup.2 horder.2
            hrest' hholds' with
            ⟨last, worth, hlast, hall, hvalues⟩ | ⟨fault, hlast, cell, hcell, hfault⟩
          · refine Or.inl ⟨last, Function.update worth first v, hlast, fun cell hcell => ?_, ?_⟩
            · by_cases hne : cell = first
              · rw [hne, hv, Function.update_self]
              · rw [Function.update_of_ne hne]
                exact hall cell ((List.mem_cons.mp hcell).resolve_left hne)
            · rw [hvalues, List.map_cons, Function.update_self, List.append_assoc,
                List.singleton_append]
              congr 2
              refine List.map_congr_left fun cell hcell => ?_
              have hne : cell ≠ first := by
                rintro rfl
                exact hnodup.1 hcell
              rw [Function.update_of_ne hne]
          · exact Or.inr ⟨fault, hlast, cell, List.mem_cons_of_mem _ hcell, hfault⟩

/-- If every other cell has its worth as value already, then all cells are worth something once
staging has found the worth of these. -/
theorem stageAll_spec_of_worth (h : s.Linked) (hfree : FreeOfCells s.builtins)
    {formulas : Location → Expr} {order : List Location} (staging : Staging)
    (hacyclic : { s.grid with formula := formulas }.Acyclic)
    (hcontains : ∀ cell ∈ order, s.contains cell = true) (hnodup : order.Nodup)
    (horder : order.Pairwise fun a b => ¬ { s.grid with formula := formulas }.Feeds b a)
    (hrest : ∀ cell, s.contains cell = true → cell ∉ order →
      { s.grid with formula := formulas }.worth cell = .ok (value cell))
    (hholds : s.Holds value staging.table) :
    (∃ (last : Staging) (worth : Location → Expr), s.stageAll formulas order staging = .ok last ∧
      (∀ cell, s.contains cell = true →
        { s.grid with formula := formulas }.worth cell = .ok (worth cell)) ∧
      last.values = staging.values ++ order.map fun cell => (cell, worth cell)) ∨
    ∃ fault, s.stageAll formulas order staging = .error fault ∧
      ∃ cell ∈ order, { s.grid with formula := formulas }.worth cell = .error fault := by
  refine (stageAll_spec h hfree staging hacyclic hcontains hnodup horder (fun cell hcell hmem =>
    tells_of_worth hacyclic hfree hcell (hrest cell hcell hmem)) hholds).imp_left ?_
  rintro ⟨last, worth, hlast, hall, hvalues⟩
  refine ⟨last, fun cell => if cell ∈ order then worth cell else value cell, hlast,
    fun cell hcell => ?_, ?_⟩
  · by_cases hmem : cell ∈ order
    · simpa only [if_pos hmem] using hall cell hmem
    · simpa only [if_neg hmem] using hrest cell hcell hmem
  · rw [hvalues]
    congr 1
    refine List.map_congr_left fun cell hcell => ?_
    simp only [if_pos hcell]

end Spreadsheet.Sheet
