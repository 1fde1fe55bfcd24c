import Mathlib.Tactic
import Spreadsheet.Proofs.Sheet.Runs

/-!
The cells that depend on a cell, and the order in which they are evaluated again.

Whatever users are entered on a sheet, the dependents of a cell are those that the entries lead to.
What the entries have to do with formulas is another matter: only of the cells of a sheet that is
reached are there entries, and these are exact.

* `Mentions`: a formula mentions a cell, on the sheet or beyond it, under any spelling;
* `Linked.leads_iff_mentions`: from a cell of the sheet the links lead where mentions do;
* `usedBy_exact`: so this is what depends on the cell, and beyond the sheet nothing does;
* `Reordered.perm_evaluationOrder`: whatever order the entries come in, the same cells are
  evaluated again;
* `evaluationOrder_exact`: these are the cells that the entries lead to from the sources, each
  once, and before all that it leads to unless the entries lead round in a circle.
-/

namespace Spreadsheet.Sheet

open Relation

variable {s : Sheet} {cell user : Location}

/-- The formula of the second cell mentions the first one. -/
def Mentions (s : Sheet) (cell user : Location) : Prop :=
  ∃ formula, s.formula? user = some formula ∧
    ∃ name ∈ formula.dependencies, Location.ofName? name = some cell

/-- A cell of the sheet feeds the cells whose formulas mention it. -/
lemma Linked.feeds_iff_mentions (h : s.Linked) (hcell : s.contains cell = true) :
    s.grid.Feeds cell user ↔ s.Mentions cell user := by
  constructor
  · rintro ⟨huser, name, hname, hspelled⟩
    exact ⟨_, h.formula?_eq huser, name, Expr.mem_dependencies.mpr hname,
      (Grid.cellOf?_eq_some_iff.mp hspelled).1⟩
  · rintro ⟨formula, hformula, name, hname, hspelled⟩
    have hnames : name ∈ (s.grid.formula user).names := by
      rw [grid_formula hformula]
      exact Expr.mem_dependencies.mp hname
    exact ⟨(h.mem_formulas user).mp (mem_of_getElem?_eq_some hformula), name, hnames,
      Grid.cellOf?_eq_some_iff.mpr ⟨hspelled, hcell⟩⟩

/-- What it leads to is what mentions it, directly or through other cells: these have formulas, so
they are on the sheet. -/
lemma Linked.leads_iff_mentions (h : s.Linked) (hcell : s.contains cell = true) :
    TransGen s.grid.Feeds cell user ↔ TransGen s.Mentions cell user := by
  constructor
  · intro hpath
    induction hpath with
    | single hfeeds => exact .single ((h.feeds_iff_mentions hcell).mp hfeeds)
    | tail hpath hfeeds ih =>
        obtain ⟨_, -, hfirst⟩ := TransGen.tail'_iff.mp hpath
        exact ih.tail ((h.feeds_iff_mentions hfirst.1).mp hfeeds)
  · intro hpath
    induction hpath with
    | single hmentions => exact .single ((h.feeds_iff_mentions hcell).mpr hmentions)
    | tail _ hmentions ih =>
        obtain ⟨_, -, hfirst⟩ := TransGen.tail'_iff.mp ih
        exact ih.tail ((h.feeds_iff_mentions hfirst.1).mpr hmentions)

/-- Beyond the sheet there are no entries. -/
lemma Linked.usedBy_of_not_contains (h : s.Linked) (hcell : s.contains cell = false) :
    s.usedBy cell = [] := by
  refine List.eq_nil_iff_forall_not_mem.mpr fun user huser => ?_
  obtain ⟨first, hfirst, -⟩ := TransGen.head'_iff.mp (mem_usedBy_iff.mp huser)
  have hmem : cell ∉ s.users := fun hmem => by
    rw [(h.mem_users cell).mp hmem] at hcell
    cases hcell
  rw [Graph.Edge, usersOf, Std.TreeMap.getElem?_eq_none hmem] at hfirst
  exact absurd hfirst List.not_mem_nil

/-- **Dependents are exact.** Whatever users are entered on a sheet, be there cycles or not, the
search for the dependents of a cell ends with nothing pending, and has found the cells that the
entries lead to from the cell by one or more steps. If the sheet is reached and blank cells mention
nothing, then these are, for a cell of the sheet, the cells whose formulas mention it directly or
through the formulas of other cells of the sheet, under any spelling. A cell beyond the sheet has no
dependents, and no cell is its own. -/
theorem usedBy_exact (s : Sheet) (cell : Location) :
    ((s.sweepUsers cell).pending = [] ∧ ∀ user, user ∈ s.usedBy cell ↔
      TransGen (fun target user => user ∈ s.usersOf target) cell user) ∧
    ∀ t, Reached t s → t.blank.dependencies = [] →
      (s.contains cell = true → ∀ user, user ∈ s.usedBy cell ↔ TransGen s.Mentions cell user) ∧
      (s.contains cell = false → s.usedBy cell = []) ∧ cell ∉ s.usedBy cell := by
  refine ⟨⟨s.pending_sweepUsers cell, fun user => mem_usedBy_iff⟩, fun t ht hblank => ?_⟩
  have hlinked := ht.linked (Expr.names_eq_nil hblank)
  refine ⟨fun hcell user => ?_, hlinked.usedBy_of_not_contains, fun hself => ?_⟩
  · rw [hlinked.mem_usedBy, hlinked.leads_iff_mentions hcell]
  · exact hlinked.acyclic cell (hlinked.mem_usedBy.mp hself)

/-- In a sheet whose first cell mentions the second by another spelling, the first depends on the
second. -/
theorem usedBy_exact_spelled : ∃ s, Reached ((Template.new .empty).bind "ten" (.const 10)) s ∧
    s.formula? ⟨0, 0⟩ = some (.op .plus [.ref "B00", .const 1]) ∧
    (⟨0, 0⟩ : Location) ∈ s.usedBy ⟨0, 1⟩ := by
  obtain ⟨s, hs, -, hcell, hformula, -⟩ := Reached.exists_spelled
  obtain ⟨-, hexact⟩ := usedBy_exact s ⟨0, 1⟩
  refine ⟨s, hs, hformula, ((hexact _ hs (by decide)).1 hcell ⟨0, 0⟩).mpr (.single ?_)⟩
  exact ⟨_, hformula, "B00", by decide, by decide +kernel⟩

/-- A sheet of one cell that mentions a cell beyond the sheet: that one has no dependents. -/
theorem usedBy_outside : ∃ s, Reached (Template.new .empty) s ∧
    (⟨0, 0⟩ : Location) ∉ s.usedBy ⟨0, 1⟩ ∧ TransGen s.Mentions ⟨0, 1⟩ ⟨0, 0⟩ := by
  have hmake : (Template.new .empty).make 1 1 = .ok _ := rfl
  obtain ⟨s, hs, hformula, husers⟩ : ∃ s, Reached (Template.new .empty) s ∧
      s.formula? ⟨0, 0⟩ = some (.ref "B0") ∧ s.usedBy ⟨0, 1⟩ = [] := by
    refine ⟨_, .step (.make hmake) (.write ⟨0, 0⟩ "B0"), ?_⟩
    decide +kernel
  refine ⟨s, hs, by simp [husers], .single ⟨_, hformula, "B0", by decide, by decide +kernel⟩⟩

/-! ### The order of evaluation -/

/-- The users of a cell are the same in any order, so the same cells are evaluated again. -/
lemma Reordered.perm_evaluationOrder {next : Sheet} (h : s.Reordered next)
    (sources : List Location) :
    (next.evaluationOrder sources).Perm (s.evaluationOrder sources) := by
  have hedge : Graph.Edge next.usersOf = Graph.Edge s.usersOf := by
    funext target user
    exact propext (h.perm_usersOf target).mem_iff.symm
  refine (List.perm_ext_iff_of_nodup (nodup_evaluationOrder sources)
    (nodup_evaluationOrder sources)).mpr fun cell => ?_
  rw [mem_evaluationOrder_iff, mem_evaluationOrder_iff, Graph.Leads, Graph.Leads, hedge]

/-- **The order of evaluation is exact.** Whatever users are entered on a sheet, in whatever order
and be there cycles or not, the walk along the entries from any sources ends in one way, and its
cells are listed in the order in which it has left them, the last one first. They are the cells that
the entries lead to from a source by one or more steps, and none is listed twice; so the order of
the entries matters to the order of the list only. If the entries lead from no cell back to itself,
each cell of the list stands before all those of the list that it leads to, whichever source either
was found from. -/
theorem evaluationOrder_exact (s : Sheet) (sources : List Location) :
    (∃ walk, (∀ other, Graph.Tour s.usersOf sources .start other ↔ other = walk) ∧
      walk.left = s.evaluationOrder sources) ∧
    (s.evaluationOrder sources).Nodup ∧
    (∀ cell, cell ∈ s.evaluationOrder sources ↔
      ∃ source ∈ sources, TransGen (fun target user => user ∈ s.usersOf target) source cell) ∧
    (∀ next, s.Reordered next →
      (next.evaluationOrder sources).Perm (s.evaluationOrder sources)) ∧
    ((∀ cell, ¬ TransGen (fun target user => user ∈ s.usersOf target) cell cell) →
      ∀ (i j : Nat) (cell user : Location), (s.evaluationOrder sources)[i]? = some cell →
        (s.evaluationOrder sources)[j]? = some user →
        TransGen (fun target user => user ∈ s.usersOf target) cell user → i < j) := by
  refine ⟨s.tour_evaluationOrder sources, nodup_evaluationOrder sources,
    fun cell => mem_evaluationOrder_iff, fun next hnext => hnext.perm_evaluationOrder sources, ?_⟩
  intro hacyclic i j cell user hcell huser hleads
  exact lt_of_leads_evaluationOrder hacyclic hcell huser hleads

/-- Two sources of which the second leads to the first and to everything that the first leads to:
the first is listed as well, before the cells that use it. -/
theorem evaluationOrder_exact_overlap : ∃ s, Reached (Template.new .empty) s ∧
    s.evaluationOrder [⟨0, 1⟩, ⟨0, 0⟩] = [⟨0, 1⟩, ⟨0, 2⟩, ⟨0, 3⟩] ∧
    ∀ i j : Nat, (s.evaluationOrder [⟨0, 1⟩, ⟨0, 0⟩])[i]? = some ⟨0, 1⟩ →
      (s.evaluationOrder [⟨0, 1⟩, ⟨0, 0⟩])[j]? = some ⟨0, 3⟩ → i < j := by
  have hmake : (Template.new .empty).make 1 4 = .ok _ := rfl
  obtain ⟨s, hs, horder, huser⟩ : ∃ s, Reached (Template.new .empty) s ∧
      s.evaluationOrder [⟨0, 1⟩, ⟨0, 0⟩] = [⟨0, 1⟩, ⟨0, 2⟩, ⟨0, 3⟩] ∧
      (⟨0, 3⟩ : Location) ∈ s.usersOf ⟨0, 1⟩ := by
    refine ⟨_, .step (.step (.step (.step (.make hmake) (.write ⟨0, 0⟩ "1"))
      (.write ⟨0, 1⟩ "A0")) (.write ⟨0, 2⟩ "A0 + B0")) (.write ⟨0, 3⟩ "B0 + C0"), ?_⟩
    decide +kernel
  have hlinked := hs.linked rfl
  have hacyclic : ∀ cell, ¬ Graph.Leads s.usersOf cell cell := by
    rw [Graph.Leads, hlinked.edge_usersOf]
    exact hlinked.acyclic
  obtain ⟨-, -, -, -, hbefore⟩ := evaluationOrder_exact s [⟨0, 1⟩, ⟨0, 0⟩]
  exact ⟨s, hs, horder, fun i j hi hj => hbefore hacyclic i j _ _ hi hj (.single huser)⟩

end Spreadsheet.Sheet
