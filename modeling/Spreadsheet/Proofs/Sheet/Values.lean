import Mathlib.Tactic
import Spreadsheet.Proofs.Sheet.Typed

/-!
Values on sheets whose formulas have been entered as texts.

An evaluation finds a number, nothing, or a name that it has met. On such a sheet it meets
only names that can be read from texts, so what it finds can be entered as a text, too. For
this it does not matter whether values are up to date.

* `Expr.settled_of_evaluate`: an evaluation finds no other names than it meets;
* `Typed.printed`: the values of cells can be entered as texts, if the built-ins are numbers.
-/

namespace Spreadsheet

/-! ### Names that an evaluation meets -/

namespace Expr

variable {P : String → Prop} {table : SymbolTable} {e v : Expr}

/-- What a name is worth is settled with regard to names of which something holds, if it holds
of the name and of all names in the table's bindings. -/
lemma settled_of_resolve (htable : ∀ (name : String) binding, table[name]? = some binding →
      ∀ id ∈ binding.names, P id) {depth : Nat} {path : List String} {name : String}
    (hname : P name) (h : resolve table depth path name = .ok v) : v.Settled P := by
  induction depth generalizing path name v with
  | zero => simp [resolve] at h
  | succ depth ih =>
      rw [resolve] at h
      cases hbinding : table[name]? with
      | none =>
          simp only [hbinding, Except.ok.injEq] at h
          exact h ▸ hname
      | some binding =>
          simp only [hbinding] at h
          split_ifs at h
          exact reduce_settled (fun next hnext _ hv => ih (htable _ _ hbinding next hnext) hv) h

/-- An evaluation that starts with such names and meets no others ends with such names. -/
theorem settled_of_evaluate (he : ∀ id ∈ e.names, P id)
    (htable : ∀ (name : String) binding, table[name]? = some binding → ∀ id ∈ binding.names, P id)
    (h : e.evaluate table = .ok v) : v.Settled P :=
  reduce_settled (fun name hname _ hv => settled_of_resolve htable (he name hname) hv) h

end Expr

namespace Formula

variable {e : Expr}

/-- The expression mentions nothing but names that can be read. -/
def Named (e : Expr) : Prop :=
  ∀ id ∈ e.names, IsName id

lemma named_of_fits {levels : List Operator} (h : Fits levels e) : Named e := by
  induction h with
  | const hn => exact fun id hid => absurd hid List.not_mem_nil
  | ref hname =>
      intro id hid
      exact List.mem_singleton.mp hid ▸ hname
  | empty => exact fun id hid => absurd hid List.not_mem_nil
  | op hlevels hne hoperands ih =>
      intro id hid
      obtain ⟨e, he, hid⟩ := Expr.mem_names_op.mp hid
      exact ih e he id hid

/-- A number, nothing and a name that can be read can be entered as texts. -/
lemma entered_of_settled (h : e.Settled IsName) : Entered e := by
  cases e with
  | const n => exact ⟨.const fun _ => by decide, Expr.everywhere_of_ne (by simp)⟩
  | ref name => exact ⟨.ref h, Expr.everywhere_of_ne (by simp)⟩
  | empty => exact entered_empty
  | op operator operands => exact absurd h id

end Formula

namespace Sheet

open Formula

variable {t : Template} {s next : Sheet} {cell : Location} {formula : Expr} {table : SymbolTable}

/-! ### Staging -/

/-- Nothing but names that can be read is mentioned in the table, and values are settled with
regard to these. -/
structure Staging.Named (staging : Staging) : Prop where
  table : ∀ (name : String) binding, staging.table[name]? = some binding → Formula.Named binding
  values : ∀ entry ∈ staging.values, entry.2.Settled IsName

variable {staging last : Staging}

/-- Other spellings are bound to what is in the table. -/
lemma named_bindSpellings
    (htable : ∀ (name : String) binding, table[name]? = some binding → Named binding) :
    ∀ (name : String) binding,
      (s.bindSpellings formula table)[name]? = some binding → Named binding := by
  change ∀ (name : String) binding,
    (formula.dependencies.foldl s.bindSpelling table)[name]? = some binding → Named binding
  generalize formula.dependencies = names
  induction names generalizing table with
  | nil => exact htable
  | cons first rest ih =>
      rw [List.foldl_cons]
      refine ih ?_
      rw [bindSpelling]
      split
      · exact htable
      · split_ifs
        · exact htable
        · split
          · next value hvalue => exact forall_insert htable (htable _ _ hvalue)
          · exact htable

/-- One cell is staged. -/
lemma Staging.Named.stage (hstaging : staging.Named) (hformula : Formula.Named formula)
    (h : s.stage staging cell formula = .ok last) : last.Named := by
  rw [Sheet.stage] at h
  obtain ⟨v, hv, hlast⟩ := bind_eq_ok_iff.mp h
  obtain rfl := Except.ok.inj hlast
  have htable : ∀ (name : String) binding,
      (s.bindSpellings formula staging.table)[name]? = some binding → Formula.Named binding :=
    named_bindSpellings hstaging.table
  have hsettled : v.Settled IsName := Expr.settled_of_evaluate hformula htable hv
  refine ⟨forall_insert htable fun id hid => hsettled.unbound_of_mem hid, fun entry hentry => ?_⟩
  rcases List.mem_append.mp hentry with hentry | hentry
  · exact hstaging.values entry hentry
  · exact List.mem_singleton.mp hentry ▸ hsettled

/-- All dependents of cells are staged. -/
lemma Readable.stageDependents (hs : s.Readable) {sources : List Location}
    (hstaging : staging.Named) (h : s.stageDependents sources staging = .ok last) :
    last.Named := by
  rw [Sheet.stageDependents] at h
  generalize s.evaluationOrder sources = order at h
  induction order generalizing staging with
  | nil => exact Except.ok.inj h ▸ hstaging
  | cons first rest ih =>
      rw [List.foldlM_cons] at h
      obtain ⟨mid, hmid, hrest⟩ := bind_eq_ok_iff.mp h
      refine ih ?_ hrest
      cases hformula : s.formula? first with
      | none =>
          rw [hformula] at hmid
          exact Except.ok.inj hmid ▸ hstaging
      | some formula =>
          rw [hformula] at hmid
          have hentered := hs.entered first
          rw [grid_formula hformula] at hentered
          exact hstaging.stage (named_of_fits hentered.fits) hmid

/-! ### Sheets -/

/-- The formulas of the sheet, its values and its built-ins can all be entered as texts. -/
structure Printed (s : Sheet) : Prop extends Readable s where
  builtin : ∀ (name : String) e, s.builtins[name]? = some e → Entered e
  value : ∀ cell v, s.value? cell = some v → Entered v

namespace Printed

/-- The table of symbols mentions only what built-ins and values mention. -/
lemma named_symbols (h : s.Printed) : (⟨s.symbols, []⟩ : Staging).Named := by
  have hsymbols : s.symbols = s.values.toList.foldl
      (fun table entry => table.insert entry.1.name entry.2) s.builtins :=
    Std.TreeMap.foldl_eq_foldl_toList
  refine ⟨?_, fun entry hentry => absurd hentry List.not_mem_nil⟩
  rw [hsymbols]
  refine forall_foldl_insert (fun entry : Location × Expr => entry.1.name) Prod.snd
    (fun name e he => named_of_fits (h.builtin name e he).fits) fun entry hentry => ?_
  refine named_of_fits (h.value entry.1 entry.2 ?_).fits
  exact Std.TreeMap.mem_toList_iff_getElem?_eq_some.mp hentry

/-- Values that have been found are stored. -/
lemma store (h : s.Printed) (hstaging : staging.Named) :
    ∀ (cell : Location) v, (s.values.store staging.values)[cell]? = some v → Entered v :=
  forall_foldl_insert Prod.fst Prod.snd h.value fun entry hentry =>
    entered_of_settled (hstaging.values entry hentry)

/-- Blanks are filled into cells. -/
lemma fill (h : s.Printed) (cells : List Location) : (s.fill cells).Printed := by
  refine ⟨h.toReadable.fill cells, h.builtin, fun cell v hv => ?_⟩
  rw [value?_fill] at hv
  split_ifs at hv
  · exact Option.some.inj hv ▸ h.blank
  · exact h.value cell v hv

end Printed

/-- All operations with texts keep values such as can be entered. -/
lemma keptByText_printed : KeptByText Printed where
  clear := fun {s} hs => hs.fill s.cells
  resize := fun {s next rows columns} hs hgrows => by
    have hreadable := keptByText_readable.resize hs.toReadable hgrows
    obtain ⟨-, linked, sources, ⟨users, rfl, -⟩, -, hnext⟩ := hgrows.eq_ok
    obtain ⟨staging, hstaging, rfl⟩ := refresh_eq_ok hnext
    have hfill := hs.fill (s.addedCells rows columns)
    have hlinked : ({ s.grown rows columns with users } : Sheet).Printed :=
      ⟨⟨hfill.blank, hfill.entered⟩, hfill.builtin, hfill.value⟩
    exact ⟨hreadable, hlinked.builtin,
      hlinked.store (hlinked.stageDependents hlinked.named_symbols hstaging)⟩
  write := fun {s next cell text} hs hwrite => by
    have hreadable := keptByText_readable.write hs.toReadable hwrite
    obtain ⟨formula, hparse, hupdate⟩ := write_eq_ok hwrite
    obtain ⟨-, -, staging, hstaging, rfl⟩ := update_eq_ok hupdate
    rw [stageUpdate] at hstaging
    obtain ⟨first, hfirst, hlast⟩ := bind_eq_ok_iff.mp hstaging
    have hnamed := hs.named_symbols.stage (named_of_fits (fits_of_parse hparse)) hfirst
    exact ⟨hreadable, hs.builtin, hs.store (hs.stageDependents hnamed hlast)⟩
  reorder := fun hs hnext => by
    have hreadable := keptByText_readable.reorder hs.toReadable hnext
    obtain ⟨users, rfl, -⟩ := hnext
    exact ⟨hreadable, hs.builtin, hs.value⟩

/-- A new sheet shows nothing but blanks. -/
lemma printed_make {rows columns : Nat} (hblank : Entered t.blank)
    (hbuiltins : ∀ (name : String) e, t.builtins[name]? = some e → Entered e)
    (hmake : t.make rows columns = .ok s) : s.Printed := by
  have hreadable := readable_make hblank hmake
  refine ⟨hreadable, fun name e he => ?_, fun cell v hv => value?_make hmake hv ▸ hblank⟩
  obtain ⟨-, -, -, rfl⟩ := make_eq_clear hmake
  exact hbuiltins name e he

/-- **Values can be entered as texts** wherever the formulas have been, if all built-ins are
numbers. -/
theorem Typed.printed (hblank : Entered t.blank) (hnumeric : Numeric t.builtins)
    (h : Typed t s) : s.Printed := by
  refine keptByText_printed.typed (printed_make hblank fun name e he => ?_) h
  obtain ⟨n, rfl⟩ := hnumeric name e he
  exact entered_of_settled trivial

end Sheet

end Spreadsheet
