import Mathlib.Tactic
import Spreadsheet.Proofs.Sheet.Typed
import Spreadsheet.Settings.Basic

/-!
What the built-ins of settings are good for.

The names of built-ins are checked when settings are read, and what a text means is decided when
a formula is read, each by a rule of its own. A name that has passed the check is read as itself,
unless it is the numeral of a number: then it is read as that number, whatever it is bound to.

* `parse_of_alphanumeric`: what letters and digits are read as;
* `getElem?_template`: sheets are made with the built-ins of the settings;
* `UpToDate.update_blank`: a formula that mentions no cell can be written into a blank sheet;
* `write_builtin`: the value of a cell into which the name of a built-in is written.
-/

namespace Spreadsheet

open Text

/-! ### Letters and digits -/

/-- Letters and digits are read as a number if they are digits only and worth less than the
limit. -/
lemma Text.readSigned?_of_alphanumeric {text : List Char} (hne : text ≠ [])
    (h : ∀ c ∈ text, isAlphanumeric c = true) :
    readSigned? text =
      if text.all Char.isDigit = true ∧ digitsValue text < 2 ^ 63 then
        some (Int64.ofNat (digitsValue text))
      else none := by
  have hsign : ∀ sign, isAlphanumeric sign = false → ∀ rest, text ≠ sign :: rest := by
    rintro sign hsign rest rfl
    rw [h sign List.mem_cons_self] at hsign
    cases hsign
  have hlimit : 2 ^ 63 = Nat.pow 2 63 := rfl
  have hread : ∀ n, magnitude? (Nat.pow 2 63) text = some n ↔
      (text.all Char.isDigit = true ∧ digitsValue text < 2 ^ 63) ∧ digitsValue text = n := by
    intro n
    rw [magnitude?_eq_some_iff (by decide), List.all_eq_true, and_assoc, hlimit]
    exact (and_iff_right hne).trans (and_congr_right fun _ => and_congr_left fun hvalue => by
      rw [hvalue])
  rw [readSigned?_of_ne (hsign '-' (by decide +kernel)) (hsign '+' (by decide +kernel))]
  split_ifs with hnumber
  · rw [(hread _).mpr ⟨hnumber, rfl⟩, Option.map_some]
  · rw [Option.map_eq_none_iff, Option.eq_none_iff_forall_ne_some]
    exact fun n hn => hnumber ((hread n).mp hn).1

namespace Formula

/-- The number that a text is the numeral of, or else the text as a name. -/
def word (name : String) : Expr :=
  match readSigned? name.toList with
  | some value => .const value
  | none => .ref name

variable {name : String}

/-- A text of letters and digits is read as a number if it is one, and else as a name. -/
theorem parse_of_alphanumeric (hne : name ≠ "")
    (h : ∀ c ∈ name.toList, isAlphanumeric c = true) : parse name = .ok (word name) := by
  rw [word]
  cases hnumber : readSigned? name.toList with
  | some value =>
      have htrim : trim name.toList = name.toList :=
        (trimmed_of_forall fun c hc => isBlank_of_isAlphanumeric (h c hc)).trim_eq
      have hread : read levels name.toList = .ok (.const value) :=
        read_of_number (htrim.symm ▸ hnumber)
      rw [parse, hread]
  | none =>
      have hentered : Entered (.ref name) :=
        ⟨.ref ⟨hne, h, hnumber⟩, Expr.everywhere_of_ne (by simp)⟩
      have hrender : (Expr.ref name).render = name := String.ofList_toList
      have hparse := hentered.parse_render_eq_collapse
      rw [hrender] at hparse
      rw [hparse, Expr.collapse]

/-- It mentions no other name than the text. -/
lemma eq_of_mem_names_word {id : String} (hid : id ∈ (word name).names) : id = name := by
  rw [word] at hid
  split at hid
  · exact absurd hid List.not_mem_nil
  · exact List.mem_singleton.mp hid

/-- A name that is bound to a number is worth this number, if it is no numeral itself. -/
lemma evaluate_word {table : SymbolTable} {n : Int64} (h : table[name]? = some (.const n)) :
    (word name).evaluate table = .ok (.const ((readSigned? name.toList).getD n)) := by
  rw [word]
  cases readSigned? name.toList with
  | some value => rfl
  | none =>
      change (Expr.ref name).evaluate table = .ok (.const n)
      rw [Expr.evaluate, Expr.reduce, Expr.resolve, h]
      rfl

end Formula

/-! ### Writing into a blank sheet -/

namespace Sheet

variable {s : Sheet} {cell : Location} {formula value : Expr}

/-- Names of no cell are worth what they evaluate to. -/
lemma reduce_nameWorth {g : Grid} {worth : Location → Except EvalFault Expr}
    (hnames : ∀ name ∈ formula.names, g.cellOf? name = none) :
    formula.reduce (g.nameWorth worth) = formula.evaluate g.builtins :=
  Expr.reduce_congr fun name hname => by
    rw [Grid.nameWorth_of_none (hnames name hname), Expr.evaluate, Expr.reduce]

/-- A formula that mentions no cell and is worth something can be written into any cell of a
blank sheet. -/
theorem UpToDate.update_blank (h : s.UpToDate)
    (hblank : ∀ other, s.grid.formula other = s.blank) (hcell : s.contains cell = true)
    (hnames : ∀ name ∈ formula.names, s.grid.cellOf? name = none)
    (hvalue : formula.evaluate s.builtins = .ok value) :
    ∃ next, s.update cell formula = .ok next ∧ next.value? cell = some value := by
  have hacyclic : (s.grid.write cell formula).Acyclic := by
    refine (Grid.acyclic_write_iff h.acyclic).mpr ?_
    rintro via ⟨-, name, hname, hvia⟩
    rw [Grid.formula_write_self] at hname
    exact absurd (hvia.symm.trans (hnames name hname)) (Option.some_ne_none via)
  have hself : (s.grid.write cell formula).worth cell = .ok value := by
    rw [Grid.worth_eq hacyclic hcell, Grid.formula_write_self]
    exact (reduce_nameWorth hnames).trans hvalue
  have hevaluates : (s.grid.write cell formula).Evaluates := by
    intro other hother
    by_cases hsame : other = cell
    · exact ⟨value, hsame ▸ hself⟩
    · refine ⟨s.blank, ?_⟩
      rw [Grid.worth_eq hacyclic hother, Grid.formula_write_of_ne hsame, hblank,
        reduce_blank h.blank_eq]
  obtain ⟨next, hnext, hdate, hgrid⟩ := h.update_of_evaluates hcell hacyclic hevaluates
  have hcell' : next.contains cell = true := by
    rw [← contains_grid, hgrid]
    exact hcell
  have hworth := hdate.worth_eq cell hcell'
  rw [hgrid, hself, Except.ok.injEq] at hworth
  exact ⟨next, hnext, hworth ▸ hdate.value?_eq hcell'⟩

end Sheet

namespace Settings

variable {settings : Settings} {name : String} {n : Int64}

/-! ### Built-ins -/

/-- Settings pass the check exactly if all their built-ins have usable names. -/
lemma check_eq_ok_iff : settings.check = .ok settings ↔
    ∀ name ∈ settings.builtins, name ≠ "" ∧ ∀ c ∈ name.toList, isAlphanumeric c = true := by
  have husable : ∀ name, isUsableName name = true ↔
      name ≠ "" ∧ ∀ c ∈ name.toList, isAlphanumeric c = true := fun name => by
    simp [isUsableName]
  rw [check]
  cases hfind : settings.builtins.keys.find? fun name => !isUsableName name with
  | none =>
      refine iff_of_true rfl fun name hname => (husable name).mp ?_
      simpa using List.find?_eq_none.mp hfind name (Std.TreeMap.mem_keys.mpr hname)
  | some name =>
      refine iff_of_false (by simp) fun hall => ?_
      have hname := (husable name).mpr
        (hall name (Std.TreeMap.mem_keys.mp (List.mem_of_find?_eq_some hfind)))
      simpa [hname] using List.find?_some hfind

/-- Sheets are made with the settings' numbers. -/
lemma template_eq : settings.template =
    ⟨settings.builtins.toList.foldl
      (fun table entry => table.insert entry.1 (Expr.const entry.2)) ∅, .empty⟩ := by
  rw [template, Std.TreeMap.foldl_eq_foldl_toList]
  exact List.foldl_hom (fun table => (⟨table, .empty⟩ : Template)) fun _ _ => rfl

/-- Each name of the settings is bound to its number. -/
lemma getElem?_template (h : settings.builtins[name]? = some n) :
    settings.template.builtins[name]? = some (.const n) := by
  rw [template_eq]
  have hnodup : (settings.builtins.toList.map Prod.fst).Nodup := by
    rw [Std.TreeMap.map_fst_toList_eq_keys]
    exact Std.TreeMap.nodup_keys
  exact getElem?_foldl_insert_of_mem Prod.fst (fun entry => Expr.const entry.2) ∅ hnodup
    (Std.TreeMap.mem_toList_iff_getElem?_eq_some.mpr h)

lemma numeric_template : Numeric settings.template.builtins := by
  rw [template_eq]
  exact forall_foldl_insert Prod.fst (fun entry => Expr.const entry.2) numeric_empty
    fun entry _ => ⟨entry.2, rfl⟩

/-- Settings that pass the check, and have a size that sheets can have, make a sheet, and the name
of a built-in that spells no cell of it can be written into its first cell. -/
lemma exists_write (hcheck : settings.check = .ok settings) (hrows : 1 ≤ settings.rows)
    (hrows' : settings.rows < wordLimit) (hcolumns : 1 ≤ settings.columns)
    (hcolumns' : settings.columns ≤ 26) (hbuiltin : settings.builtins[name]? = some n)
    (hcell : ∀ cell, Location.ofName? name = some cell →
      ¬ (cell.row < settings.rows ∧ cell.column < settings.columns)) :
    ∃ s next, settings.template.make settings.rows settings.columns = .ok s ∧
      s.write ⟨0, 0⟩ name = .ok next ∧
      next.value? ⟨0, 0⟩ = some (.const ((readSigned? name.toList).getD n)) := by
  obtain ⟨hne, halpha⟩ := check_eq_ok_iff.mp hcheck name (mem_of_getElem?_eq_some hbuiltin)
  obtain ⟨s, hmake⟩ := Sheet.make_of_validSize settings.template hrows hcolumns
    (Sheet.validSize_iff.mpr ⟨hrows', hcolumns'⟩)
  obtain ⟨hrows_eq, hcolumns_eq, hblank, hbuiltins⟩ := Sheet.make_eq_ok hmake
  have htemplate : settings.template.blank = .empty := by rw [template_eq]
  have hdate : s.UpToDate :=
    Sheet.upToDate_make numeric_template.freeOfCells (Or.inl htemplate) hmake
  have hname : s.grid.cellOf? name = none := by
    rw [Grid.cellOf?, Option.filter_eq_none_iff]
    intro cell hspelled hcontains
    rw [Grid.contains_iff] at hcontains
    exact hcell cell hspelled (hrows_eq ▸ hcolumns_eq ▸ hcontains)
  have hfirst : s.contains ⟨0, 0⟩ = true := by
    rw [Sheet.contains_iff, hrows_eq, hcolumns_eq]
    exact ⟨hrows, hcolumns⟩
  obtain ⟨next, hnext, hvalue⟩ := hdate.update_blank
    (fun other => (Sheet.grid_formula_make hmake other).trans hblank.symm) hfirst
    (fun id hid => Formula.eq_of_mem_names_word hid ▸ hname)
    (Formula.evaluate_word (hbuiltins ▸ getElem?_template hbuiltin))
  refine ⟨s, next, hmake, ?_, hvalue⟩
  rw [Sheet.write, Formula.parse_of_alphanumeric hne halpha]
  exact hnext

/-- **The value of a built-in.** Settings that pass the check, and have a size that sheets can
have, make a sheet. The name of a built-in that spells no cell of the sheet can be written into
its first cell, and the cell then has the built-in's number, unless the name has nothing but
digits that are worth less than `2 ^ 63`. In that case the cell has the number that they are
worth. -/
theorem write_builtin (hcheck : settings.check = .ok settings) (hrows : 1 ≤ settings.rows)
    (hrows' : settings.rows < wordLimit) (hcolumns : 1 ≤ settings.columns)
    (hcolumns' : settings.columns ≤ 26) (hbuiltin : settings.builtins[name]? = some n)
    (hcell : ∀ cell, Location.ofName? name = some cell →
      ¬ (cell.row < settings.rows ∧ cell.column < settings.columns)) :
    ∃ s next, settings.template.make settings.rows settings.columns = .ok s ∧
      s.write ⟨0, 0⟩ name = .ok next ∧
      next.value? ⟨0, 0⟩ = some (.const
        (if name.toList.all Char.isDigit = true ∧ digitsValue name.toList < 2 ^ 63 then
          Int64.ofNat (digitsValue name.toList)
        else n)) := by
  obtain ⟨hne, halpha⟩ := check_eq_ok_iff.mp hcheck name (mem_of_getElem?_eq_some hbuiltin)
  obtain ⟨s, next, hmake, hwrite, hvalue⟩ :=
    exists_write hcheck hrows hrows' hcolumns hcolumns' hbuiltin hcell
  refine ⟨s, next, hmake, hwrite, ?_⟩
  rw [hvalue, readSigned?_of_alphanumeric (by simpa using hne) halpha]
  split_ifs <;> rfl

/-- Settings with one built-in, for a sheet of a single cell. -/
def single (name : String) (n : Int64) : Settings :=
  ⟨1, 1, (∅ : Std.TreeMap String Int64).insert name n⟩

lemma getElem?_single (name : String) (n : Int64) : (single name n).builtins[name]? = some n :=
  Std.TreeMap.getElem?_insert_self

lemma check_single (name : String) (n : Int64) (hne : name ≠ "")
    (h : name.toList.all isAlphanumeric = true) :
    (single name n).check = .ok (single name n) := by
  refine check_eq_ok_iff.mpr fun other hother => ?_
  rw [single, Std.TreeMap.mem_insert, Std.LawfulEqCmp.compare_eq_iff_eq,
    or_iff_left Std.TreeMap.not_mem_emptyc] at hother
  exact hother ▸ ⟨hne, List.all_eq_true.mp h⟩

/-- A built-in is found even if its name spells a cell, as long as the cell lies beyond the edge
of the sheet. -/
theorem write_builtin_outside : ∃ s next, (single "C0" 42).template.make 1 1 = .ok s ∧
    s.write ⟨0, 0⟩ "C0" = .ok next ∧ next.value? ⟨0, 0⟩ = some (.const 42) := by
  have hcheck := check_single "C0" 42 (by decide) (by decide +kernel)
  have hcell : ∀ cell, Location.ofName? "C0" = some cell → ¬ (cell.row < 1 ∧ cell.column < 1) := by
    have hspelled : Location.ofName? "C0" = some ⟨0, 2⟩ := by decide +kernel
    intro cell hname
    obtain rfl := Option.some.inj (hspelled.symm.trans hname)
    decide
  obtain ⟨s, next, hmake, hwrite, hvalue⟩ := write_builtin hcheck (by decide) (by decide)
    (by decide) (by decide) (getElem?_single "C0" 42) hcell
  refine ⟨s, next, hmake, hwrite, hvalue.trans ?_⟩
  decide +kernel

/-- A built-in whose name is a numeral passes the check, too, and is not found. -/
theorem write_builtin_numeral : (single "123" 5).check = .ok (single "123" 5) ∧
    (single "123" 5).builtins["123"]? = some 5 ∧ Location.ofName? "123" = none ∧
    ∃ s next, (single "123" 5).template.make 1 1 = .ok s ∧ s.write ⟨0, 0⟩ "123" = .ok next ∧
      next.value? ⟨0, 0⟩ = some (.const 123) := by
  have hcheck := check_single "123" 5 (by decide) (by decide +kernel)
  have hname : Location.ofName? "123" = none := by decide +kernel
  obtain ⟨s, next, hmake, hwrite, hvalue⟩ := exists_write hcheck (by decide) (by decide)
    (by decide) (by decide) (getElem?_single "123" 5) (by simp [hname])
  refine ⟨hcheck, getElem?_single "123" 5, hname, s, next, hmake, hwrite, hvalue.trans ?_⟩
  decide +kernel

end Settings

end Spreadsheet
