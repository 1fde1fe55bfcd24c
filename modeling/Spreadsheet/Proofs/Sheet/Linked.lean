import Mathlib.Tactic
import Spreadsheet.Proofs.Graph.Search
import Spreadsheet.Proofs.Graph.Sweep
import Spreadsheet.Proofs.Grid
import Spreadsheet.Proofs.Names
import Spreadsheet.Proofs.Tables
import Spreadsheet.Sheet.Resize

/-!
The users of cells, and how changes to a sheet keep them.

A sheet is `Linked` if it has a formula, a value and users for exactly its own
cells, if the users of each cell are those whose formulas mention it, and if no cell
depends on itself.

* `pending_sweepUsers` and `mem_usedBy_iff`: on any sheet, linked or not, the cells that depend on
  a cell are found by a sweep that ends;
* `tour_evaluationOrder` and its companions: on any sheet the cells to be evaluated again are
  listed by a walk that ends, and in an order of dependence if there are no cycles;
* `Linked.mem_evaluationOrder` and its companions: on a linked sheet the cells to
  be evaluated again after a change are exactly those downstream of it, each once
  and in an order of dependence;
* `Linked.cycleThrough?_eq_none_iff`: the look for a cycle in advance is exact;
* `Reordered.linked`: nothing of this is a matter of the order in which users are listed.
-/

namespace Spreadsheet

open Relation

namespace Sheet

/-- What has been written into a sheet. Cells that are not on it count as blank. -/
def grid (s : Sheet) : Grid :=
  ⟨s.rows, s.columns, s.builtins, fun cell => (s.formula? cell).getD s.blank⟩

variable {s : Sheet} {cell user : Location} {formula : Expr}

lemma contains_grid : s.grid.contains cell = s.contains cell := rfl

lemma contains_iff : s.contains cell = true ↔ cell.row < s.rows ∧ cell.column < s.columns :=
  Grid.contains_iff (g := s.grid)

lemma validSize_iff {rows columns : Nat} :
    validSize rows columns = true ↔ rows < Text.wordLimit ∧ columns ≤ maxColumns := by
  rw [validSize, Bool.and_eq_true, decide_eq_true_eq, decide_eq_true_eq]

lemma grid_formula (h : s.formula? cell = some formula) : s.grid.formula cell = formula := by
  change (s.formula? cell).getD s.blank = formula
  rw [h, Option.getD_some]

/-- The targets of a formula are the cells of the sheet that its names spell. -/
lemma mem_targets {e : Expr} :
    cell ∈ s.targets e ↔ ∃ name ∈ e.names, s.grid.cellOf? name = some cell := by
  simp only [targets, List.mem_filter, List.mem_filterMap, Expr.mem_dependencies,
    Grid.cellOf?_eq_some_iff, contains_grid]
  constructor
  · rintro ⟨⟨name, hname, hcell⟩, hcontains⟩
    exact ⟨name, hname, hcell, hcontains⟩
  · rintro ⟨name, hname, hcell, hcontains⟩
    exact ⟨⟨name, hname, hcell⟩, hcontains⟩

lemma mem_edges {e : Expr} {target : Location} :
    (target, user) ∈ s.edges cell e ↔ target ∈ s.targets e ∧ user = cell := by
  simp only [edges, List.mem_map, Prod.mk.injEq]
  constructor
  · rintro ⟨t, ht, rfl, rfl⟩
    exact ⟨ht, rfl⟩
  · rintro ⟨ht, rfl⟩
    exact ⟨target, ht, rfl, rfl⟩

/-! ### Adding and removing edges -/

section Users

variable {users : CellMap (List Location)} {edges : List (Location × Location)}

lemma mem_addUser {edge : Location × Location} :
    user ∈ ((addUser users edge)[cell]?).getD [] ↔
      user ∈ (users[cell]?).getD [] ∨ (cell ∈ users ∧ edge = (cell, user)) := by
  rw [addUser, Std.TreeMap.getElem?_modify, Std.TreeMap.mem_iff_isSome_getElem?]
  obtain ⟨target, added⟩ := edge
  by_cases hcell : target = cell
  · subst hcell
    cases users[target]? <;> simp [or_comm, eq_comm]
  · simp [hcell]

lemma mem_removeUser {edge : Location × Location} :
    user ∈ ((removeUser users edge)[cell]?).getD [] ↔
      user ∈ (users[cell]?).getD [] ∧ edge ≠ (cell, user) := by
  rw [removeUser, Std.TreeMap.getElem?_modify]
  obtain ⟨target, removed⟩ := edge
  by_cases hcell : target = cell
  · subst hcell
    cases users[target]? with
    | none => simp
    | some old => simp [eq_comm (a := removed)]
  · simp [hcell]

/-- Adding edges changes the users of no other cells than those on hand. -/
lemma mem_foldl_addUser :
    cell ∈ edges.foldl addUser users ↔ cell ∈ users := by
  induction edges generalizing users with
  | nil => rfl
  | cons edge rest ih => rw [List.foldl_cons, ih, addUser, Std.TreeMap.mem_modify]

lemma mem_foldl_removeUser :
    cell ∈ edges.foldl removeUser users ↔ cell ∈ users := by
  induction edges generalizing users with
  | nil => rfl
  | cons edge rest ih => rw [List.foldl_cons, ih, removeUser, Std.TreeMap.mem_modify]

/-- After edges are added the users of a cell are the former ones and those to which
an edge was added. -/
lemma mem_getD_foldl_addUser :
    user ∈ ((edges.foldl addUser users)[cell]?).getD [] ↔
      user ∈ (users[cell]?).getD [] ∨ (cell ∈ users ∧ (cell, user) ∈ edges) := by
  induction edges generalizing users with
  | nil => simp
  | cons edge rest ih =>
      rw [List.foldl_cons, ih, mem_addUser, addUser, Std.TreeMap.mem_modify, List.mem_cons,
        eq_comm (a := edge), or_assoc, ← and_or_left]

/-- After edges are removed the users of a cell are the former ones to which none
was removed. -/
lemma mem_getD_foldl_removeUser :
    user ∈ ((edges.foldl removeUser users)[cell]?).getD [] ↔
      user ∈ (users[cell]?).getD [] ∧ (cell, user) ∉ edges := by
  induction edges generalizing users with
  | nil => simp
  | cons edge rest ih =>
      rw [List.foldl_cons, ih, mem_removeUser, List.mem_cons, ne_comm, not_or, and_assoc]

end Users

/-! ### Dependents -/

lemma mem_allUsers (h : user ∈ s.usersOf cell) : user ∈ s.allUsers := by
  rw [usersOf] at h
  cases hcell : s.users[cell]? with
  | none =>
      rw [hcell] at h
      exact absurd h List.not_mem_nil
  | some users =>
      rw [hcell] at h
      exact List.mem_flatMap.mpr
        ⟨(cell, users), Std.TreeMap.mem_toList_iff_getElem?_eq_some.mpr hcell, h⟩

lemma card_allUsers_lt : s.allUsers.toFinset.card < s.allUsers.length + 1 :=
  Nat.lt_succ_of_le (List.toFinset_card_le _)

/-- The sweep over the users of a cell ends, whatever the users are. -/
theorem pending_sweepUsers (s : Sheet) (cell : Location) : (s.sweepUsers cell).pending = [] :=
  Graph.pending_sweep (fun _ _ huser => List.mem_toFinset.mpr (mem_allUsers huser))
    card_allUsers_lt cell

/-- **Dependents** are the cells that the users of a cell, their users and so on lead to,
whatever the users are. -/
theorem mem_usedBy_iff : user ∈ s.usedBy cell ↔ Graph.Leads s.usersOf cell user := by
  rw [usedBy, Std.TreeSet.mem_toList, Std.TreeSet.mem_ofList, List.contains_iff_mem, sweepUsers]
  exact Graph.mem_found_sweep (fun _ _ huser => List.mem_toFinset.mpr (mem_allUsers huser))
    card_allUsers_lt

/-! ### The order of evaluation -/

lemma mem_users_of_usersOf (hcell : s.usersOf cell ≠ []) : cell ∈ s.users.keys.toFinset := by
  rw [List.mem_toFinset, Std.TreeMap.mem_keys]
  by_contra hmem
  rw [usersOf, Std.TreeMap.getElem?_eq_none hmem] at hcell
  exact hcell rfl

lemma card_users_le : s.users.keys.toFinset.card ≤ s.users.size :=
  (List.toFinset_card_le _).trans_eq Std.TreeMap.length_keys

/-- The walk along the users of the sources ends, whatever the users are, and the cells are
evaluated again in the order in which it has left them, the last one first. -/
theorem tour_evaluationOrder (s : Sheet) (sources : List Location) : ∃ walk,
    (∀ other, Graph.Tour s.usersOf sources .start other ↔ other = walk) ∧
      walk.left = s.evaluationOrder sources :=
  Graph.tour_downstream (fun _ => mem_users_of_usersOf) card_users_le sources

/-- The cells to be evaluated again are those that the users of a source, their users and so on
lead to. -/
theorem mem_evaluationOrder_iff {sources : List Location} :
    cell ∈ s.evaluationOrder sources ↔ ∃ source ∈ sources, Graph.Leads s.usersOf source cell :=
  Graph.mem_downstream (fun _ => mem_users_of_usersOf) card_users_le

lemma nodup_evaluationOrder (sources : List Location) : (s.evaluationOrder sources).Nodup :=
  Graph.nodup_downstream (fun _ => mem_users_of_usersOf) card_users_le sources

/-- Without cycles each of them is evaluated before all that it leads to. -/
theorem lt_of_leads_evaluationOrder (hacyclic : ∀ cell, ¬ Graph.Leads s.usersOf cell cell)
    {sources : List Location} {i j : Nat} (hcell : (s.evaluationOrder sources)[i]? = some cell)
    (huser : (s.evaluationOrder sources)[j]? = some user)
    (hleads : Graph.Leads s.usersOf cell user) : i < j :=
  Graph.lt_of_leads_downstream (fun _ => mem_users_of_usersOf) card_users_le hacyclic hcell huser
    hleads

/-! ### Linked sheets -/

/-- The links of a sheet are in order: there are a formula, a value and users for
exactly the cells of the sheet, the users are the cells whose formulas mention the
cell, and no cell depends on itself. -/
structure Linked (s : Sheet) : Prop where
  rows_pos : 0 < s.rows
  columns_pos : 0 < s.columns
  validSize : Sheet.validSize s.rows s.columns = true
  blank_names : s.blank.names = []
  mem_formulas : ∀ cell, cell ∈ s.formulas ↔ s.contains cell = true
  mem_values : ∀ cell, cell ∈ s.values ↔ s.contains cell = true
  mem_users : ∀ cell, cell ∈ s.users ↔ s.contains cell = true
  mem_usersOf : ∀ cell user, user ∈ s.usersOf cell ↔ s.grid.Feeds cell user
  acyclic : s.grid.Acyclic

namespace Linked

lemma rows_lt (h : s.Linked) : s.rows < Text.wordLimit :=
  (validSize_iff.mp h.validSize).1

lemma columns_le (h : s.Linked) : s.columns ≤ maxColumns :=
  (validSize_iff.mp h.validSize).2

/-- The name of a cell of the sheet names that cell. -/
lemma cellOf?_name (h : s.Linked) (hcell : s.contains cell = true) :
    s.grid.cellOf? cell.name = some cell := by
  obtain ⟨hrow, hcolumn⟩ := contains_iff.mp hcell
  exact Grid.cellOf?_eq_some_iff.mpr ⟨Location.ofName?_name (hrow.trans h.rows_lt)
    (lt_of_lt_of_le hcolumn h.columns_le), hcell⟩

/-- Different cells of the sheet have different names. -/
lemma name_injective (h : s.Linked) {other : Location} (hcell : s.contains cell = true)
    (hother : s.contains other = true) (hname : cell.name = other.name) : cell = other := by
  have hcell' := h.cellOf?_name hcell
  rw [hname, h.cellOf?_name hother] at hcell'
  exact (Option.some.inj hcell').symm

/-- Every cell of the sheet has a formula. -/
lemma formula?_eq (h : s.Linked) (hcell : s.contains cell = true) :
    s.formula? cell = some (s.grid.formula cell) := by
  have hmem := (h.mem_formulas cell).mpr hcell
  rw [Std.TreeMap.mem_iff_isSome_getElem?] at hmem
  obtain ⟨formula, hformula⟩ := Option.isSome_iff_exists.mp hmem
  have hsome : s.formula? cell = some formula := hformula
  rw [grid_formula hsome, hsome]

/-- Every cell of the sheet has a value. -/
lemma exists_value (h : s.Linked) (hcell : s.contains cell = true) :
    ∃ value, s.value? cell = some value := by
  have hmem := (h.mem_values cell).mpr hcell
  rw [Std.TreeMap.mem_iff_isSome_getElem?] at hmem
  exact Option.isSome_iff_exists.mp hmem

/-- Beyond the sheet there are no formulas. -/
lemma grid_formula_of_not_contains (h : s.Linked) (hcell : ¬ s.contains cell = true) :
    s.grid.formula cell = s.blank := by
  have hmem : cell ∉ s.formulas := fun hmem => hcell ((h.mem_formulas cell).mp hmem)
  have hnone : s.formula? cell = none := Std.TreeMap.getElem?_eq_none hmem
  change (s.formula? cell).getD s.blank = s.blank
  rw [hnone, Option.getD_none]

/-! ### Walking along the links -/

/-- The edges of the sheet's graph are the links. -/
lemma edge_usersOf (h : s.Linked) : Graph.Edge s.usersOf = s.grid.Feeds := by
  funext cell user
  exact propext (h.mem_usersOf cell user)

/-- The cells to be evaluated again are those downstream of the sources. -/
lemma mem_evaluationOrder (h : s.Linked) {sources : List Location} :
    cell ∈ s.evaluationOrder sources ↔ ∃ source ∈ sources, TransGen s.grid.Feeds source cell := by
  rw [mem_evaluationOrder_iff, Graph.Leads, h.edge_usersOf]

/-- No cell leads to one that is evaluated before it. -/
lemma pairwise_evaluationOrder (h : s.Linked) (sources : List Location) :
    (s.evaluationOrder sources).Pairwise fun a b => ¬ TransGen s.grid.Feeds b a := by
  have hacyclic : ∀ cell, ¬ Graph.Leads s.usersOf cell cell := by
    rw [Graph.Leads, h.edge_usersOf]
    exact h.acyclic
  have := Graph.pairwise_downstream (fun _ => mem_users_of_usersOf) card_users_le hacyclic sources
  rwa [Graph.Leads, h.edge_usersOf] at this

lemma contains_of_mem_evaluationOrder (h : s.Linked) {sources : List Location}
    (hcell : cell ∈ s.evaluationOrder sources) : s.contains cell = true := by
  obtain ⟨source, -, hpath⟩ := h.mem_evaluationOrder.mp hcell
  obtain ⟨_, -, hfeeds⟩ := TransGen.tail'_iff.mp hpath
  exact hfeeds.1

/-- The cells that use a cell, directly or not, are those that it leads to. -/
theorem mem_usedBy (h : s.Linked) : user ∈ s.usedBy cell ↔ TransGen s.grid.Feeds cell user := by
  rw [mem_usedBy_iff, Graph.Leads, h.edge_usersOf]

/-! ### Cycles -/

lemma feeds_write_self (hcell : s.contains cell = true) {via : Location} :
    (s.grid.write cell formula).Feeds via cell ↔ via ∈ s.targets formula := by
  rw [mem_targets, Grid.Feeds, Grid.formula_write_self]
  exact and_iff_right hcell

/-- What is found by the look for a cycle. -/
lemma cycleThrough?_eq_some (h : s.Linked) {via : Location}
    (hvia : s.cycleThrough? cell formula = some via) :
    via ∈ s.targets formula ∧ (via = cell ∨ TransGen s.grid.Feeds cell via) := by
  have hmem := List.mem_of_find?_eq_some hvia
  have hfound := List.find?_some hvia
  rw [Bool.or_eq_true, beq_iff_eq, List.contains_iff_mem, h.mem_usedBy] at hfound
  exact ⟨hmem, hfound⟩

/-- The look for a cycle finds none exactly if writing the formula closes none. -/
theorem cycleThrough?_eq_none_iff (h : s.Linked) (hcell : s.contains cell = true) :
    s.cycleThrough? cell formula = none ↔ (s.grid.write cell formula).Acyclic := by
  rw [Grid.acyclic_write_iff h.acyclic, cycleThrough?, List.find?_eq_none]
  refine forall_congr' fun via => ?_
  rw [feeds_write_self hcell, Bool.or_eq_true, beq_iff_eq, List.contains_iff_mem, h.mem_usedBy,
    not_or]

end Linked

/-! ### Listing users in another order -/

/-- The same sheet, with the users of cells listed in another order. Nothing fixes the
order in which they are walked through. -/
def Reordered (s next : Sheet) : Prop :=
  ∃ users : CellMap (List Location), next = { s with users } ∧
    ∀ cell : Location, Option.Rel List.Perm s.users[cell]? users[cell]?

namespace Reordered

variable {next : Sheet}

lemma refl (s : Sheet) : s.Reordered s := by
  refine ⟨s.users, rfl, fun cell => ?_⟩
  cases s.users[cell]? with
  | none => exact Option.Rel.none
  | some users => exact Option.Rel.some (List.Perm.refl users)

lemma grid_eq (h : s.Reordered next) : next.grid = s.grid := by
  obtain ⟨users, rfl, -⟩ := h
  rfl

lemma perm_usersOf (h : s.Reordered next) (cell : Location) :
    (s.usersOf cell).Perm (next.usersOf cell) := by
  obtain ⟨users, rfl, husers⟩ := h
  have hrel := husers cell
  change ((s.users[cell]?).getD []).Perm ((users[cell]?).getD [])
  generalize s.users[cell]? = old, users[cell]? = new at hrel ⊢
  cases hrel with
  | some hperm => exact hperm
  | none => exact List.Perm.refl _

lemma mem_users (h : s.Reordered next) (cell : Location) :
    cell ∈ next.users ↔ cell ∈ s.users := by
  obtain ⟨users, rfl, husers⟩ := h
  change cell ∈ users ↔ cell ∈ s.users
  have hrel := husers cell
  rw [Std.TreeMap.mem_iff_isSome_getElem?, Std.TreeMap.mem_iff_isSome_getElem?]
  generalize s.users[cell]? = old, users[cell]? = new at hrel ⊢
  cases hrel with
  | some => rfl
  | none => rfl

/-- A linked sheet stays linked, with the same grid. -/
lemma linked (hnext : s.Reordered next) (h : s.Linked) : next.Linked := by
  have hmem := hnext.mem_users
  have hperm := hnext.perm_usersOf
  obtain ⟨users, rfl, -⟩ := hnext
  exact ⟨h.rows_pos, h.columns_pos, h.validSize, h.blank_names, h.mem_formulas, h.mem_values,
    fun cell => (hmem cell).trans (h.mem_users cell),
    fun cell user => (hperm cell).mem_iff.symm.trans (h.mem_usersOf cell user), h.acyclic⟩

end Reordered

end Sheet

end Spreadsheet
