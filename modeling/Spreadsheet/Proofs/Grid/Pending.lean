import Mathlib.Tactic
import Spreadsheet.Proofs.Grid

/-!
Grids that are filled in formula by formula.

`Grid.without` is a grid in which the formulas of some cells are still missing. While
the formulas are filled in, a cell that mentions a missing one may be worth nothing, so
not every part of a grid that evaluates does so itself. What holds is

* `worth_without`: in a part that evaluates every cell has its final worth or is empty,
  since an operator has a result only once all names in it are worth numbers;
* `evaluates_without`: such a part still evaluates with one more formula, if nothing
  upstream of that formula's cell is missing.

So there always is a formula that can be filled in next (`exists_next`), and an order of
dependence need not be known.
-/

namespace Spreadsheet.Grid

open Relation

/-- The grid in which the given cells are empty. -/
def without (g : Grid) (pending : List Location) : Grid :=
  { g with formula := fun cell => if cell ∈ pending then .empty else g.formula cell }

variable {g : Grid} {cell user : Location} {name : String} {pending rest : List Location}

@[simp] lemma without_nil : g.without [] = g := by
  simp [without]

lemma formula_without_of_mem (hcell : cell ∈ pending) :
    (g.without pending).formula cell = .empty :=
  if_pos hcell

lemma formula_without_of_notMem (hcell : cell ∉ pending) :
    (g.without pending).formula cell = g.formula cell :=
  if_neg hcell

/-- The order in which missing formulas are listed does not matter. -/
lemma without_congr (h : ∀ cell, cell ∈ pending ↔ cell ∈ rest) :
    g.without pending = g.without rest := by
  simp only [without, h]

/-- Filling in the formula of one more cell. -/
lemma write_without (hcell : cell ∉ rest) :
    (g.without (cell :: rest)).write cell (g.formula cell) = g.without rest := by
  rw [write, without, without]
  congr 1
  funext other
  by_cases hother : other = cell
  · rw [hother, Function.update_self, if_neg hcell]
  · rw [Function.update_of_ne hother]
    simp [hother]

/-- Missing formulas only take links away. -/
lemma feeds_of_without (hfeeds : (g.without pending).Feeds cell user) : g.Feeds cell user := by
  by_cases hpending : user ∈ pending
  · refine absurd hfeeds (not_feeds_of_names ?_)
    rw [formula_without_of_mem hpending, Expr.names]
  · obtain ⟨huser, name, hname, hcell⟩ := hfeeds
    rw [formula_without_of_notMem hpending] at hname
    exact ⟨huser, name, hname, hcell⟩

lemma Acyclic.without (hg : g.Acyclic) (pending : List Location) : (g.without pending).Acyclic := by
  intro cell hcycle
  exact hg cell (hcycle.lift id fun _ _ => feeds_of_without)

/-- A cell with a missing formula is empty. -/
lemma worth_without_of_mem (hg : g.Acyclic) (hcell : g.contains cell = true)
    (hpending : cell ∈ pending) : (g.without pending).worth cell = .ok .empty := by
  rw [worth_eq (hg.without pending) hcell, formula_without_of_mem hpending, Expr.reduce]

/-- Any other cell is worth what its final formula is worth by the part. -/
lemma worth_without_of_notMem (hg : g.Acyclic) (hcell : g.contains cell = true)
    (hpending : cell ∉ pending) :
    (g.without pending).worth cell
      = (g.formula cell).reduce (g.nameWorth (g.without pending).worth) := by
  rw [worth_eq (hg.without pending) hcell, formula_without_of_notMem hpending]
  rfl

/-- A cell has its final worth if nothing upstream is missing. -/
lemma worth_without_of_upstream (hg : g.Acyclic) (hcell : g.contains cell = true)
    (hup : ∀ source, ReflTransGen g.Feeds source cell → source ∉ pending) :
    (g.without pending).worth cell = g.worth cell := by
  refine (worth_congr hg (hg.without pending) rfl hcell fun source hsource hpath => ?_).symm
  exact ⟨hsource, (formula_without_of_notMem (hup source hpath)).symm, fun _ _ => rfl⟩

/-- If names that are worth numbers are worth the same elsewhere, then an operator with a
result has the same result there. -/
lemma reduce_op_congr {worth other : String → Except EvalFault Expr} {operator : Operator}
    {es : List Expr} {value : Expr} (h : (Expr.op operator es).reduce worth = .ok value)
    (hworth : ∀ name ∈ (Expr.op operator es).names, ∀ n, worth name = .ok (.const n) →
      other name = .ok (.const n)) :
    (Expr.op operator es).reduce other = (Expr.op operator es).reduce worth := by
  refine Expr.reduce_congr fun name hname => ?_
  obtain ⟨n, hn⟩ := Expr.number_of_reduce_op h name hname
  rw [hn, hworth name hname n hn]

/-- Names are worth the same numbers if cells are. -/
lemma nameWorth_eq_const {worth other : Location → Except EvalFault Expr} {n : Int64}
    (hname : g.nameWorth worth name = .ok (.const n))
    (hworth : ∀ cell, g.cellOf? name = some cell → worth cell = .ok (.const n) →
      other cell = .ok (.const n)) : g.nameWorth other name = .ok (.const n) := by
  cases hcell : g.cellOf? name with
  | none =>
      rw [nameWorth_of_none hcell] at hname ⊢
      exact hname
  | some cell =>
      rw [nameWorth_of_cellOf? hcell] at hname ⊢
      exact hworth cell hcell hname

/-- A number that a cell is worth in a part of a grid is its final worth. -/
lemma worth_eq_const (hcell : (g.without pending).worth cell = g.worth cell ∨
      (g.without pending).worth cell = .ok .empty) {n : Int64}
    (hn : (g.without pending).worth cell = .ok (.const n)) : g.worth cell = .ok (.const n) := by
  rcases hcell with hsame | hempty
  · rw [← hsame, hn]
  · simp [hn] at hempty

/-- In a part of a grid that evaluates, every cell has its final worth or is empty. -/
theorem worth_without (hg : g.Acyclic) (hpart : (g.without pending).Evaluates)
    (hcell : g.contains cell = true) :
    (g.without pending).worth cell = g.worth cell ∨
      (g.without pending).worth cell = .ok .empty := by
  -- a name takes its worth from upstream, and an operator finds numbers, which are final
  induction cell using hg.wellFounded.induction with
  | _ cell ih =>
      by_cases hpending : cell ∈ pending
      · exact Or.inr (worth_without_of_mem hg hcell hpending)
      obtain ⟨value, hvalue⟩ := hpart cell hcell
      have hsource : ∀ name ∈ (g.formula cell).names, ∀ source, g.cellOf? name = some source →
          (g.without pending).worth source = g.worth source ∨
            (g.without pending).worth source = .ok .empty := fun name hname source hsource =>
        ih source ⟨hcell, name, hname, hsource⟩ (contains_of_cellOf? hsource)
      rw [worth_without_of_notMem hg hcell hpending] at hvalue ⊢
      rw [worth_eq hg hcell]
      cases hformula : g.formula cell with
      | const n => exact Or.inl (by rw [Expr.reduce, Expr.reduce])
      | empty => exact Or.inl (by rw [Expr.reduce, Expr.reduce])
      | ref name =>
          rw [Expr.reduce, Expr.reduce]
          cases hname : g.cellOf? name with
          | none => exact Or.inl (by rw [nameWorth_of_none hname, nameWorth_of_none hname])
          | some source =>
              rw [nameWorth_of_cellOf? hname, nameWorth_of_cellOf? hname]
              exact hsource name (by simp [hformula, Expr.names]) source hname
      | op operator es =>
          rw [hformula] at hvalue hsource
          refine Or.inl (reduce_op_congr hvalue fun name hname n hn => ?_).symm
          refine nameWorth_eq_const hn fun source hcell hsame => ?_
          exact worth_eq_const (hsource name hname source hcell) hsame

/-- Filling in a formula with nothing missing upstream leaves the worth of every cell as
it is, or brings it to the final one. -/
lemma worth_without_cons (hg : g.Acyclic) (hpart : (g.without (cell :: rest)).Evaluates)
    (hup : ∀ source, ReflTransGen g.Feeds source cell → source ∉ rest)
    (huser : g.contains user = true) :
    (g.without rest).worth user = (g.without (cell :: rest)).worth user ∨
      (g.without rest).worth user = g.worth user := by
  induction user using hg.wellFounded.induction with
  | _ user ih =>
      -- the cell itself now has nothing missing upstream
      by_cases hself : user = cell
      · subst hself
        exact Or.inr (worth_without_of_upstream hg huser hup)
      by_cases hpending : user ∈ rest
      · rw [worth_without_of_mem hg huser hpending,
          worth_without_of_mem hg huser (List.mem_cons_of_mem _ hpending)]
        exact Or.inl rfl
      have hpending' : user ∉ cell :: rest := by simp [hself, hpending]
      obtain ⟨value, hvalue⟩ := hpart user huser
      have hsource : ∀ name ∈ (g.formula user).names, ∀ source, g.cellOf? name = some source →
          (g.without rest).worth source = (g.without (cell :: rest)).worth source ∨
            (g.without rest).worth source = g.worth source := fun name hname source hsource =>
        ih source ⟨huser, name, hname, hsource⟩ (contains_of_cellOf? hsource)
      rw [worth_without_of_notMem hg huser hpending'] at hvalue ⊢
      rw [worth_without_of_notMem hg huser hpending, worth_eq hg huser]
      cases hformula : g.formula user with
      | const n => exact Or.inl (by rw [Expr.reduce, Expr.reduce])
      | empty => exact Or.inl (by rw [Expr.reduce, Expr.reduce])
      | ref name =>
          rw [Expr.reduce, Expr.reduce, Expr.reduce]
          cases hname : g.cellOf? name with
          | none => exact Or.inl (by rw [nameWorth_of_none hname, nameWorth_of_none hname])
          | some source =>
              rw [nameWorth_of_cellOf? hname, nameWorth_of_cellOf? hname,
                nameWorth_of_cellOf? hname]
              exact hsource name (by simp [hformula, Expr.names]) source hname
      | op operator es =>
          rw [hformula] at hvalue hsource
          refine Or.inl (reduce_op_congr hvalue fun name hname n hn => ?_)
          refine nameWorth_eq_const hn fun source hcell hnumber => ?_
          -- a number is final, so that it does not matter which of the two it is
          have hfinal := worth_eq_const (worth_without hg hpart (contains_of_cellOf? hcell)) hnumber
          rcases hsource name hname source hcell with hsame | hsame
          · rw [hsame, hnumber]
          · rw [hsame, hfinal]

/-- A part of a grid that evaluates still does with one more formula, if nothing upstream
of its cell is missing. -/
theorem evaluates_without (hg : g.Acyclic) (hevaluates : g.Evaluates)
    (hpart : (g.without (cell :: rest)).Evaluates)
    (hup : ∀ source, ReflTransGen g.Feeds source cell → source ∉ rest) :
    (g.without rest).Evaluates := by
  intro user huser
  rcases worth_without_cons hg hpart hup huser with hsame | hsame
  · rw [hsame]
    exact hpart user huser
  · rw [hsame]
    exact hevaluates user huser

/-- Of missing formulas there is one with nothing else missing upstream of its cell. -/
lemma exists_next (hg : g.Acyclic) (hpending : pending ≠ []) :
    ∃ cell ∈ pending, ∀ source, ReflTransGen g.Feeds source cell → source ∈ pending →
      source = cell := by
  obtain ⟨first, hfirst⟩ := List.exists_mem_of_ne_nil pending hpending
  obtain ⟨cell, hcell, hmin⟩ :=
    hg.wellFounded.transGen.has_min {cell | cell ∈ pending} ⟨first, hfirst⟩
  refine ⟨cell, hcell, fun source hpath hsource => ?_⟩
  rcases reflTransGen_iff_eq_or_transGen.mp hpath with heq | hpath
  · exact heq.symm
  · exact absurd hpath (hmin source hsource)

end Spreadsheet.Grid
