import Mathlib.Tactic
import Spreadsheet.Proofs.Expr.Lookup

/-!
Names that are bound to themselves, and how evaluation ends.

A table may bind a name, directly or through other names, to itself. An evaluation that
came back to such a name would go round for ever, so it keeps the bound names on its path
and stops at the first that it meets again.

* `Yields` are the rules of evaluation. They keep the path and bound neither its length nor
  the depth of a derivation; `yields_iff` shows that there is exactly one result by these
  rules, the one that `Expr.evaluate` finds within its bound, so that evaluation ends under
  every table;
* `not_reaches_of_resolve`: an evaluation that succeeds has gone along every path from its
  expression, so that no name that it can meet reaches itself;
* `reaches_of_resolve`: a name is reported as circular only if it reaches itself;
* `evaluate_exact` puts these together.
-/

namespace Spreadsheet.Expr

/-- A bound name reaches the names that the evaluation of its binding can meet. -/
def Reaches (table : SymbolTable) (name met : String) : Prop :=
  ∃ binding, table[name]? = some binding ∧ Meets (fun name => table[name]?) binding met

mutual

/-- The result of an expression, be it a worth or a fault, where `path` are the bound names
whose bindings are being evaluated. -/
inductive Yields (table : SymbolTable) : List String → Expr → Except EvalFault Expr → Prop
  /-- A number is worth itself. -/
  | const {path : List String} (value : Int64) :
      Yields table path (.const value) (.ok (.const value))
  /-- So is nothing. -/
  | empty {path : List String} : Yields table path .empty (.ok .empty)
  /-- So is a name that is not bound. -/
  | unbound {path : List String} {name : String} (hbinding : table[name]? = none) :
      Yields table path (.ref name) (.ok (.ref name))
  /-- A bound name that is met again on the path is circular. -/
  | circular {path : List String} {name : String} {binding : Expr}
      (hbinding : table[name]? = some binding) (hpath : name ∈ path) :
      Yields table path (.ref name) (.error (.circular name))
  /-- Any other bound name has the result of its binding. -/
  | follow {path : List String} {name : String} {binding : Expr} {result : Except EvalFault Expr}
      (hbinding : table[name]? = some binding) (hpath : name ∉ path)
      (hresult : Yields table (name :: path) binding result) :
      Yields table path (.ref name) result
  /-- An operator is applied to the numbers of its operands. -/
  | op {path : List String} {operator : Operator} {operands : List Expr}
      {values : Except EvalFault (List Int64)} (hvalues : YieldsAll table path operands values) :
      Yields table path (.op operator operands) (values >>= applyOperator operator)

/-- The numbers of operands, which are evaluated from left to right up to the first without
one. -/
inductive YieldsAll (table : SymbolTable) :
    List String → List Expr → Except EvalFault (List Int64) → Prop
  | nil {path : List String} : YieldsAll table path [] (.ok [])
  /-- The first operand has no number. -/
  | fault {path : List String} {e : Expr} {es : List Expr} {result : Except EvalFault Expr}
      {fault : EvalFault} (hresult : Yields table path e result)
      (hfault : result >>= number = .error fault) : YieldsAll table path (e :: es) (.error fault)
  /-- The first operand has one. -/
  | cons {path : List String} {e : Expr} {es : List Expr} {result : Except EvalFault Expr}
      {value : Int64} {values : Except EvalFault (List Int64)}
      (hresult : Yields table path e result) (hvalue : result >>= number = .ok value)
      (hvalues : YieldsAll table path es values) :
      YieldsAll table path (e :: es) (values >>= fun values => .ok (value :: values))

end

variable {table : SymbolTable} {e : Expr} {depth : Nat} {path : List String} {name id : String}

/-! ### Evaluation ends -/

/-- Operands have exactly one list of numbers, or fault, by the rules if each of them has
exactly one result. -/
lemma yieldsAll_iff {worth : String → Except EvalFault Expr} {es : List Expr}
    (h : ∀ e ∈ es, ∀ result, Yields table path e result ↔ result = e.reduce worth)
    (values : Except EvalFault (List Int64)) :
    YieldsAll table path es values ↔ values = numbers worth es := by
  induction es generalizing values with
  | nil =>
      rw [numbers]
      constructor
      · rintro ⟨⟩
        rfl
      · rintro rfl
        exact .nil
  | cons e es ih =>
      have hfirst := h e List.mem_cons_self
      have hrest := ih fun e' he' => h e' (List.mem_cons_of_mem _ he')
      rw [numbers_cons]
      constructor
      · intro hyields
        cases hyields with
        | fault hresult hfault =>
            obtain rfl := (hfirst _).mp hresult
            rw [hfault]
            rfl
        | cons hresult hvalue hvalues =>
            obtain rfl := (hfirst _).mp hresult
            obtain rfl := (hrest _).mp hvalues
            rw [hvalue]
            rfl
      · rintro rfl
        cases hvalue : e.reduce worth >>= number with
        | error fault => exact .fault ((hfirst _).mpr rfl) hvalue
        | ok value => exact .cons ((hfirst _).mpr rfl) hvalue ((hrest _).mpr rfl)

/-- An expression has exactly one result by the rules if each name in it has. -/
lemma yields_iff_reduce {worth : String → Except EvalFault Expr}
    (h : ∀ name ∈ e.names, ∀ result, Yields table path (.ref name) result ↔ result = worth name)
    (result : Except EvalFault Expr) : Yields table path e result ↔ result = e.reduce worth := by
  induction e using Expr.ind generalizing result with
  | const n =>
      rw [reduce]
      exact ⟨fun hyields => by cases hyields; rfl, fun hresult => hresult ▸ .const n⟩
  | ref name =>
      rw [reduce]
      exact h name (by simp [names]) result
  | empty =>
      rw [reduce]
      exact ⟨fun hyields => by cases hyields; rfl, fun hresult => hresult ▸ .empty⟩
  | op operator es ih =>
      have hall := yieldsAll_iff fun e he => ih e he fun name hname =>
        h name (by rw [names, namesOfAll_eq_flatMap]; exact List.mem_flatMap.mpr ⟨e, he, hname⟩)
      rw [reduce_op]
      constructor
      · rintro ⟨⟩
        rename_i values hvalues
        rw [(hall values).mp hvalues]
      · rintro rfl
        exact .op ((hall _).mpr rfl)

/-- A name has exactly one result by the rules. The induction is on the depth, which a path
of bound names cannot outrun. -/
lemma yields_ref_iff (hdepth : DeepEnough table depth path) (result : Except EvalFault Expr) :
    Yields table path (.ref name) result ↔ result = resolve table depth path name := by
  induction depth generalizing path name result with
  | zero => exact absurd hdepth.pos (lt_irrefl 0)
  | succ depth ih =>
      rw [resolve]
      cases hbinding : table[name]? with
      | none =>
          refine ⟨fun hyields => ?_, fun hresult => hresult ▸ .unbound hbinding⟩
          cases hyields with
          | unbound => rfl
          | circular hbound | follow hbound =>
              rw [hbinding] at hbound
              cases hbound
      | some binding =>
          dsimp only
          split_ifs with hpath
          -- the name is on the path, and circular
          · refine ⟨fun hyields => ?_, fun hresult => hresult ▸ .circular hbinding hpath⟩
            cases hyields with
            | unbound hunbound =>
                rw [hbinding] at hunbound
                cases hunbound
            | circular => rfl
            | follow _ hfresh => exact absurd hpath hfresh
          -- it is not, and joins the path below which its binding is evaluated
          · have hnext : Yields table (name :: path) binding result ↔
                result = binding.reduce (resolve table depth (name :: path)) :=
              yields_iff_reduce (fun _ _ result =>
                ih (hdepth.cons (mem_of_getElem?_eq_some hbinding) hpath) result) result
            rw [← hnext]
            refine ⟨fun hyields => ?_, .follow hbinding hpath⟩
            cases hyields with
            | unbound hunbound =>
                rw [hbinding] at hunbound
                cases hunbound
            | circular _ hmet => exact absurd hmet hpath
            | follow hbound _ hresult =>
                obtain rfl := Option.some.inj (hbinding.symm.trans hbound)
                exact hresult

/-- **Evaluation ends.** Under every table an expression has exactly one result by the rules,
and evaluation finds it. -/
theorem yields_iff {result : Except EvalFault Expr} :
    Yields table [] e result ↔ result = e.evaluate table :=
  yields_iff_reduce (fun _ _ result => yields_ref_iff (DeepEnough.start table) result) result

/-! ### Names that reach themselves -/

/-- What an expression can meet, one of its names can. -/
lemma Meets.exists_ref {lookup : String → Option Expr} {met : String} (h : Meets lookup e met) :
    ∃ name ∈ e.names, Meets lookup (.ref name) met := by
  cases h with
  | mention hname => exact ⟨met, hname, .mention (by simp [names])⟩
  | follow hname hbinding hmet => exact ⟨_, hname, .follow (by simp [names]) hbinding hmet⟩

/-- A name can meet itself and what it reaches. -/
lemma meets_ref_iff {met : String} :
    Meets (fun name => table[name]?) (.ref name) met ↔ met = name ∨ Reaches table name met := by
  constructor
  · intro h
    cases h with
    | mention hself => exact Or.inl (by simpa [names] using hself)
    | follow hself hbinding hmet =>
        rw [names, List.mem_singleton] at hself
        exact Or.inr ⟨_, hself ▸ hbinding, hmet⟩
  · rintro (rfl | ⟨binding, hbinding, hmet⟩)
    · exact .mention (by simp [names])
    · exact .follow (by simp [names]) hbinding hmet

/-- If an expression has a worth, so has each of its names. -/
lemma exists_worth_of_reduce {worth : String → Except EvalFault Expr} {v : Expr}
    (h : e.reduce worth = .ok v) (hname : name ∈ e.names) : ∃ v, worth name = .ok v := by
  cases e with
  | const n | empty =>
      rw [names] at hname
      exact absurd hname List.not_mem_nil
  | ref id =>
      rw [names, List.mem_singleton] at hname
      rw [reduce] at h
      exact ⟨v, hname ▸ h⟩
  | op operator es =>
      obtain ⟨n, hn⟩ := number_of_reduce_op h name hname
      exact ⟨_, hn⟩

/-- An evaluation that succeeds has met nothing bound that was on its path, and no name that
reaches itself: it has gone along every path from its start, also back to such a name. -/
lemma not_reaches_of_resolve {v : Expr} {met : String} (h : resolve table depth path name = .ok v)
    (hmet : Meets (fun name => table[name]?) (.ref name) met) (hbound : met ∈ table) :
    met ∉ path ∧ ¬ Reaches table met met := by
  induction depth generalizing path name v met with
  | zero => simp [resolve] at h
  | succ depth ih =>
      rw [resolve] at h
      cases hbinding : table[name]? with
      | none =>
          rcases meets_ref_iff.mp hmet with rfl | ⟨binding, hfollowed, -⟩
          · rw [Std.TreeMap.mem_iff_isSome_getElem?, hbinding] at hbound
            cases hbound
          · rw [hbinding] at hfollowed
            cases hfollowed
      | some binding =>
          simp only [hbinding] at h
          split_ifs at h with hpath
          -- what the binding meets is met along a longer path, which the name is on
          have hbelow : ∀ {met}, Meets (fun name => table[name]?) binding met → met ∈ table →
              met ∉ name :: path ∧ ¬ Reaches table met met := by
            intro met hmet hbound
            obtain ⟨next, hnext, hmet⟩ := hmet.exists_ref
            obtain ⟨_, hworth⟩ := exists_worth_of_reduce h hnext
            exact ih hworth hmet hbound
          rcases meets_ref_iff.mp hmet with rfl | ⟨_, hfollowed, hmet⟩
          · refine ⟨hpath, ?_⟩
            rintro ⟨_, hfollowed, hback⟩
            obtain rfl := Option.some.inj (hbinding.symm.trans hfollowed)
            exact (hbelow hback hbound).1 List.mem_cons_self
          · obtain rfl := Option.some.inj (hbinding.symm.trans hfollowed)
            obtain ⟨hfresh, hreaches⟩ := hbelow hmet hbound
            exact ⟨fun hmem => hfresh (List.mem_cons_of_mem _ hmem), hreaches⟩

/-- A name that is reported as circular has been met, is bound, and reaches itself unless it
was on the path from the start. -/
lemma reaches_of_resolve (hdepth : DeepEnough table depth path)
    (h : resolve table depth path name = .error (.circular id)) :
    id ∈ table ∧ Meets (fun name => table[name]?) (.ref name) id ∧
      (id ∈ path ∨ Reaches table id id) := by
  induction depth generalizing path name with
  | zero => exact absurd hdepth.pos (lt_irrefl 0)
  | succ depth ih =>
      rw [resolve] at h
      cases hbinding : table[name]? with
      | none =>
          simp only [hbinding] at h
          cases h
      | some binding =>
          have hname := mem_of_getElem?_eq_some hbinding
          simp only [hbinding] at h
          split_ifs at h with hpath
          · obtain rfl : name = id := by simpa using h
            exact ⟨hname, meets_ref_iff.mpr (Or.inl rfl), Or.inl hpath⟩
          -- a name below is reported: it was on the path before, or is the name that has joined it
          · obtain ⟨next, hnext, hcircular⟩ := reduce_eq_circular h
            obtain ⟨hid, hmet, hback⟩ := ih (hdepth.cons hname hpath) hcircular
            have hreaches : Reaches table name id := ⟨binding, hbinding, hmet.of_ref hnext⟩
            refine ⟨hid, meets_ref_iff.mpr (Or.inr hreaches), ?_⟩
            rcases hback with hback | hback
            · rcases List.mem_cons.mp hback with rfl | hback
              · exact Or.inr hreaches
              · exact Or.inl hback
            · exact Or.inr hback

lemma Reaches.mem {met : String} (h : Reaches table name met) : name ∈ table := by
  obtain ⟨binding, hbinding, -⟩ := h
  exact mem_of_getElem?_eq_some hbinding

/-- An expression with a worth meets no name that reaches itself. -/
lemma not_reaches_of_evaluate {v : Expr} (h : e.evaluate table = .ok v)
    (hmet : Meets (fun name => table[name]?) e name) : ¬ Reaches table name name := by
  intro hreaches
  obtain ⟨first, hfirst, hmet⟩ := hmet.exists_ref
  obtain ⟨_, hworth⟩ := exists_worth_of_reduce h hfirst
  exact (not_reaches_of_resolve hworth hmet hreaches.mem).2 hreaches

/-- A name that an expression reports as circular is one that it meets, and reaches itself. -/
lemma reaches_of_evaluate (h : e.evaluate table = .error (.circular name)) :
    name ∈ table ∧ Meets (fun name => table[name]?) e name ∧ Reaches table name name := by
  obtain ⟨first, hfirst, hcircular⟩ := reduce_eq_circular h
  obtain ⟨hname, hmet, hback⟩ := reaches_of_resolve (DeepEnough.start table) hcircular
  exact ⟨hname, hmet.of_ref hfirst, hback.resolve_left List.not_mem_nil⟩

/-- A worth is settled. -/
lemma evaluate_settled {v : Expr} (h : e.evaluate table = .ok v) :
    v.Settled fun name => table[name]? = none :=
  reduce_settled (fun _ _ _ hworth => resolve_settled hworth) h

/-- **Evaluation ends under every table, and reports cycles exactly.** By the rules an
expression has exactly one result, which evaluation finds. If it is a worth, it is a number,
nothing or a name that is not bound, it is worth itself, and no name that the evaluation can
meet reaches itself. If it is a circular name, the name is bound, can be met, and reaches
itself; so a name that does not is never reported, however often and wherever it is
mentioned. -/
theorem evaluate_exact (table : SymbolTable) (e : Expr) :
    (∀ result, Yields table [] e result ↔ result = e.evaluate table) ∧
    (∀ value, e.evaluate table = .ok value →
      ((∃ n, value = .const n) ∨ value = .empty ∨
        ∃ name, value = .ref name ∧ table[name]? = none) ∧
      value.evaluate table = .ok value ∧
      ∀ name, Meets (fun name => table[name]?) e name → ¬ Reaches table name name) ∧
    (∀ name, e.evaluate table = .error (.circular name) →
      (∃ binding, table[name]? = some binding) ∧
        Meets (fun name => table[name]?) e name ∧ Reaches table name name) ∧
    ∀ name, ¬ Reaches table name name → e.evaluate table ≠ .error (.circular name) := by
  refine ⟨fun _ => yields_iff, fun value hvalue => ?_, fun name hcircular => ?_,
    fun name hreaches hcircular => hreaches (reaches_of_evaluate hcircular).2.2⟩
  · have hsettled := evaluate_settled hvalue
    refine ⟨?_, reduce_of_settled (Nat.succ_pos _) hsettled,
      fun name hmet => not_reaches_of_evaluate hvalue hmet⟩
    cases value with
    | const n => exact Or.inl ⟨n, rfl⟩
    | ref name => exact Or.inr (Or.inr ⟨name, rfl, hsettled⟩)
    | empty => exact Or.inr (Or.inl rfl)
    | op operator es => exact absurd hsettled id
  · obtain ⟨-, hmet, hreaches⟩ := reaches_of_evaluate hcircular
    exact ⟨hreaches.imp fun _ h => h.1, hmet, hreaches⟩

end Spreadsheet.Expr
