import Mathlib.Data.List.Perm.Subperm
import Mathlib.Tactic
import Spreadsheet.Expr.Evaluation
import Spreadsheet.Proofs.Tables

/-!
What the worth of an expression depends on.

* `reduce_congr`: the worth of an expression is a matter of what the names that it
  mentions are worth; `number_of_reduce_op` says that an operator has a result only
  if each of them is worth a number;
* `Meets` are the names that an evaluation can meet: those of the expression, those
  of their bindings, and so on. `resolve_congr` and `evaluate_congr` show that tables
  that agree on these names give the same worth, whatever else they bind and however
  deep the two evaluations may go;
* `Settled` are the forms that a worth can have: a number, nothing, or a name that
  stands for nothing (`reduce_settled`, `resolve_settled`).
-/

namespace Spreadsheet

/-! ### Computations that can fail -/

section Bind

variable {ε α β : Type} {x : Except ε α} {f : α → Except ε β}

lemma bind_eq_ok_iff {b : β} : (x >>= f) = .ok b ↔ ∃ a, x = .ok a ∧ f a = .ok b := by
  cases x <;> simp [bind, Except.bind]

lemma bind_eq_error_iff {fault : ε} :
    (x >>= f) = .error fault ↔ x = .error fault ∨ ∃ a, x = .ok a ∧ f a = .error fault := by
  cases x <;> simp [bind, Except.bind]

/-- Only what succeeds has a result. -/
lemma toOption_eq_some_iff {a : α} : x.toOption = some a ↔ x = .ok a := by
  cases x <;> simp [Except.toOption]

variable {xs : List α} {ys : List β}

/-- A pass over a list that does not fail computes every member of its result from a member of
the list. -/
lemma exists_of_mem_mapM (h : xs.mapM f = .ok ys) {y : β} (hy : y ∈ ys) :
    ∃ x ∈ xs, f x = .ok y := by
  induction xs generalizing ys with
  | nil =>
      obtain rfl := Except.ok.inj h
      exact absurd hy List.not_mem_nil
  | cons x rest ih =>
      rw [List.mapM_cons, bind_eq_ok_iff] at h
      obtain ⟨first, hfirst, h⟩ := h
      obtain ⟨others, hothers, h⟩ := bind_eq_ok_iff.mp h
      obtain rfl := Except.ok.inj h
      rcases List.mem_cons.mp hy with rfl | hy
      · exact ⟨x, List.mem_cons_self, hfirst⟩
      · obtain ⟨x', hx', hy⟩ := ih hothers hy
        exact ⟨x', List.mem_cons_of_mem _ hx', hy⟩

/-- A pass over a list that does not fail has as many results as the list has members. -/
lemma length_of_mapM (h : xs.mapM f = .ok ys) : ys.length = xs.length := by
  induction xs generalizing ys with
  | nil =>
      obtain rfl := Except.ok.inj h
      rfl
  | cons x rest ih =>
      rw [List.mapM_cons, bind_eq_ok_iff] at h
      obtain ⟨first, -, h⟩ := h
      obtain ⟨others, hothers, h⟩ := bind_eq_ok_iff.mp h
      obtain rfl := Except.ok.inj h
      rw [List.length_cons, List.length_cons, ih hothers]

/-- A pass over a list fails exactly if it does so on some member. -/
lemma exists_mapM_eq_ok_iff : (∃ ys, xs.mapM f = .ok ys) ↔ ∀ x ∈ xs, ∃ y, f x = .ok y := by
  induction xs with
  | nil => exact iff_of_true ⟨[], rfl⟩ (by simp)
  | cons x rest ih =>
      rw [List.forall_mem_cons, ← ih]
      simp only [List.mapM_cons, bind_eq_ok_iff]
      constructor
      · rintro ⟨_, y, hy, ys, hys, -⟩
        exact ⟨⟨y, hy⟩, ys, hys⟩
      · rintro ⟨⟨y, hy⟩, ys, hys⟩
        exact ⟨y :: ys, y, hy, ys, hys, rfl⟩

/-- A pass over a list fails with the fault of one of its members. -/
lemma exists_of_mapM_eq_error {fault : ε} (h : xs.mapM f = .error fault) :
    ∃ x ∈ xs, f x = .error fault := by
  induction xs with
  | nil => cases h
  | cons x rest ih =>
      rw [List.mapM_cons, bind_eq_error_iff] at h
      rcases h with h | ⟨y, -, h⟩
      · exact ⟨x, List.mem_cons_self, h⟩
      · obtain h | ⟨ys, -, h⟩ := bind_eq_error_iff.mp h
        · obtain ⟨x', hx', h⟩ := ih h
          exact ⟨x', List.mem_cons_of_mem _ hx', h⟩
        · cases h

/-- A pass over a list fails with the fault of the first member on which it fails. -/
lemma mapM_eq_error_of_getElem? {i : Nat} {x : α} {fault : ε} (hx : xs[i]? = some x)
    (hbefore : ∀ j < i, ∀ y, xs[j]? = some y → ∃ b, f y = .ok b) (hfail : f x = .error fault) :
    xs.mapM f = .error fault := by
  induction xs generalizing i with
  | nil => simp at hx
  | cons first rest ih =>
      rw [List.mapM_cons, bind_eq_error_iff]
      cases i with
      | zero =>
          obtain rfl : first = x := by simpa using hx
          exact Or.inl hfail
      | succ i =>
          obtain ⟨b, hb⟩ := hbefore 0 (by omega) first rfl
          have hrest := ih hx fun j hj y hy => hbefore (j + 1) (by omega) y hy
          exact Or.inr ⟨b, hb, bind_eq_error_iff.mpr (Or.inl hrest)⟩

/-- A pass over a list computes a function exactly if it does so on each member. -/
lemma mapM_eq_ok_map_iff {g : α → β} :
    xs.mapM f = .ok (xs.map g) ↔ ∀ x ∈ xs, f x = .ok (g x) := by
  induction xs with
  | nil => exact iff_of_true rfl (by simp)
  | cons x rest ih =>
      rw [List.map_cons, List.mapM_cons, List.forall_mem_cons, ← ih, bind_eq_ok_iff]
      constructor
      · rintro ⟨first, hfirst, h⟩
        obtain ⟨others, hothers, h⟩ := bind_eq_ok_iff.mp h
        obtain ⟨rfl, rfl⟩ := List.cons.inj (Except.ok.inj h)
        exact ⟨hfirst, hothers⟩
      · rintro ⟨hfirst, hothers⟩
        exact ⟨g x, hfirst, bind_eq_ok_iff.mpr ⟨rest.map g, hothers, rfl⟩⟩

end Bind

namespace Expr

/-! ### The worth of the parts -/

section Reduce

variable {worth other : String → Except EvalFault Expr}

lemma reduce_op (operator : Operator) (es : List Expr) :
    (Expr.op operator es).reduce worth = (numbers worth es >>= applyOperator operator) := by
  rw [reduce]

lemma numbers_cons (e : Expr) (es : List Expr) :
    numbers worth (e :: es)
      = ((e.reduce worth >>= number) >>= fun value =>
          numbers worth es >>= fun values => .ok (value :: values)) := by
  rw [numbers, bind_assoc]
  rfl

lemma number_eq_ok_iff {e : Expr} {value : Int64} : e.number = .ok value ↔ e = .const value := by
  cases e <;> simp [number]

/-- Only what the names in an expression are worth matters. -/
lemma reduce_congr {e : Expr} (h : ∀ name ∈ e.names, worth name = other name) :
    e.reduce worth = e.reduce other := by
  induction e using Expr.ind with
  | const n => rw [reduce, reduce]
  | ref name => simpa [reduce, names] using h
  | empty => rw [reduce, reduce]
  | op operator es ih =>
      have hnumbers : numbers worth es = numbers other es := by
        rw [names] at h
        induction es with
        | nil => rw [numbers, numbers]
        | cons e es ihes =>
            rw [namesOfAll] at h
            rw [numbers_cons, numbers_cons,
              ih e List.mem_cons_self fun name hn => h name (List.mem_append_left _ hn),
              ihes (fun e' he' => ih e' (List.mem_cons_of_mem _ he'))
                fun name hn => h name (List.mem_append_right _ hn)]
      rw [reduce_op, reduce_op, hnumbers]

/-- Operands that are all numbers are each worth a number. -/
lemma reduce_of_numbers {es : List Expr} {values : List Int64}
    (h : numbers worth es = .ok values) :
    ∀ e ∈ es, ∃ value, e.reduce worth = .ok (.const value) := by
  induction es generalizing values with
  | nil => simp
  | cons e es ih =>
      rw [numbers_cons, bind_eq_ok_iff] at h
      obtain ⟨value, hvalue, h⟩ := h
      obtain ⟨rest, hrest, -⟩ := bind_eq_ok_iff.mp h
      obtain ⟨found, hfound, hnumber⟩ := bind_eq_ok_iff.mp hvalue
      rw [number_eq_ok_iff] at hnumber
      intro e' he'
      rcases List.mem_cons.mp he' with rfl | he'
      · exact ⟨value, hnumber ▸ hfound⟩
      · exact ih hrest e' he'

/-- An operator with a result makes a number of numbers. -/
lemma reduce_op_eq_ok {operator : Operator} {es : List Expr} {v : Expr}
    (h : (Expr.op operator es).reduce worth = .ok v) :
    (∃ value, v = .const value) ∧ ∀ e ∈ es, ∃ value, e.reduce worth = .ok (.const value) := by
  rw [reduce_op, bind_eq_ok_iff] at h
  obtain ⟨values, hvalues, happly⟩ := h
  refine ⟨?_, reduce_of_numbers hvalues⟩
  rw [applyOperator] at happly
  split at happly
  · exact ⟨_, (Except.ok.inj happly).symm⟩
  · exact absurd happly (by simp)

/-- If an operator has a result, every name among its operands is worth a number. -/
lemma number_of_reduce_op {operator : Operator} {es : List Expr} {v : Expr}
    (h : (Expr.op operator es).reduce worth = .ok v) :
    ∀ name ∈ (Expr.op operator es).names, ∃ value, worth name = .ok (.const value) := by
  suffices hnames : ∀ e : Expr, (∃ value, e.reduce worth = .ok (.const value)) →
      ∀ name ∈ e.names, ∃ value, worth name = .ok (.const value) by
    obtain ⟨⟨value, rfl⟩, -⟩ := reduce_op_eq_ok h
    exact hnames _ ⟨value, h⟩
  clear h
  intro e
  induction e using Expr.ind with
  | const n => simp [names]
  | ref name => simp [names, reduce]
  | empty => simp [names]
  | op operator es ih =>
      rintro ⟨value, h⟩ name hname
      rw [names, namesOfAll_eq_flatMap, List.mem_flatMap] at hname
      obtain ⟨e, he, hname⟩ := hname
      exact ih e he ((reduce_op_eq_ok h).2 e he) name hname

/-- Only a name can be worth a name. -/
lemma reduce_eq_ref {e : Expr} {id : String} (h : e.reduce worth = .ok (.ref id)) :
    ∃ name, e = .ref name ∧ worth name = .ok (.ref id) := by
  cases e with
  | const n => simp [reduce] at h
  | ref name => exact ⟨name, rfl, by rwa [reduce] at h⟩
  | empty => simp [reduce] at h
  | op operator es =>
      obtain ⟨⟨value, hv⟩, -⟩ := reduce_op_eq_ok h
      simp at hv

/-- A circular name is reported only on account of a name that the expression
mentions. -/
lemma reduce_eq_circular {e : Expr} {id : String} (h : e.reduce worth = .error (.circular id)) :
    ∃ name ∈ e.names, worth name = .error (.circular id) := by
  induction e using Expr.ind with
  | const n => simp [reduce] at h
  | ref name => exact ⟨name, by simp [names], by rwa [reduce] at h⟩
  | empty => simp [reduce] at h
  | op operator es ih =>
      rw [reduce_op, bind_eq_error_iff] at h
      -- an operator itself never reports a circular name, so one of its operands does
      have hnumbers : numbers worth es = .error (.circular id) := by
        rcases h with h | ⟨values, -, h⟩
        · exact h
        · rw [applyOperator] at h
          split at h <;> simp at h
      rw [names]
      clear h
      induction es with
      | nil => simp [numbers] at hnumbers
      | cons e es ihes =>
          rw [numbers_cons, bind_eq_error_iff, bind_eq_error_iff] at hnumbers
          simp only [namesOfAll, List.mem_append]
          rcases hnumbers with (hfirst | ⟨v, -, hnumber⟩) | ⟨value, -, hrest⟩
          · obtain ⟨name, hname, hworth⟩ := ih e List.mem_cons_self hfirst
            exact ⟨name, Or.inl hname, hworth⟩
          · cases v <;> simp [number] at hnumber
          · obtain hrest | ⟨values, -, hrest⟩ := bind_eq_error_iff.mp hrest
            · obtain ⟨name, hname, hworth⟩ :=
                ihes (fun e' he' => ih e' (List.mem_cons_of_mem _ he')) hrest
              exact ⟨name, Or.inr hname, hworth⟩
            · simp at hrest

end Reduce

/-! ### The names that an evaluation can meet -/

/-- The names that the evaluation of an expression can meet if `lookup` says what
names are bound to: those of the expression, and those that the evaluation of their
bindings can meet. -/
inductive Meets (lookup : String → Option Expr) : Expr → String → Prop where
  | mention {e : Expr} {name : String} (hname : name ∈ e.names) : Meets lookup e name
  | follow {e binding : Expr} {name met : String} (hname : name ∈ e.names)
      (hbinding : lookup name = some binding) (hmet : Meets lookup binding met) :
      Meets lookup e met

/-- What the evaluation of a name can meet, so can that of an expression with it. -/
lemma Meets.of_ref {lookup : String → Option Expr} {e : Expr} {name met : String}
    (hmet : Meets lookup (.ref name) met) (hname : name ∈ e.names) : Meets lookup e met := by
  cases hmet with
  | mention hself =>
      rw [names, List.mem_singleton] at hself
      exact mention (hself ▸ hname)
  | follow hself hbinding hmet =>
      rw [names, List.mem_singleton] at hself
      exact follow (hself ▸ hname) hbinding hmet

variable {table other : SymbolTable}

/-- An evaluation on its way along a path of bound names may still go deep enough:
the depth that is left and the path together outnumber the bindings. -/
structure DeepEnough (table : SymbolTable) (depth : Nat) (path : List String) : Prop where
  nodup : path.Nodup
  bound : ∀ name ∈ path, name ∈ table
  size_lt : table.size < depth + path.length

lemma DeepEnough.start (table : SymbolTable) : DeepEnough table (table.size + 1) [] :=
  ⟨List.nodup_nil, by simp, by simp⟩

lemma DeepEnough.cons {depth : Nat} {path : List String} (h : DeepEnough table (depth + 1) path)
    {name : String} (hname : name ∈ table) (hpath : name ∉ path) :
    DeepEnough table depth (name :: path) where
  nodup := List.nodup_cons.mpr ⟨hpath, h.nodup⟩
  bound := fun other ho => by
    rcases List.mem_cons.mp ho with rfl | ho
    · exact hname
    · exact h.bound other ho
  size_lt := by
    have := h.size_lt
    rw [List.length_cons]
    omega

/-- A path of bound names is no longer than the table. -/
lemma DeepEnough.pos {depth : Nat} {path : List String} (h : DeepEnough table depth path) :
    0 < depth := by
  have hsub : path ⊆ table.keys := fun name hname =>
    Std.TreeMap.mem_keys.mpr (h.bound name hname)
  have hlength := (h.nodup.subperm hsub).length_le
  rw [Std.TreeMap.length_keys] at hlength
  have := h.size_lt
  omega

/-- Tables that agree on what an evaluation can meet give a name the same worth. -/
lemma resolve_congr {depth depth' : Nat} {path : List String} {name : String}
    (hdepth : DeepEnough table depth path) (hdepth' : DeepEnough other depth' path)
    (h : ∀ met, Meets (fun name => table[name]?) (.ref name) met → table[met]? = other[met]?) :
    resolve table depth path name = resolve other depth' path name := by
  -- on the depth of the first evaluation; a bound name joins both paths
  induction depth generalizing depth' path name with
  | zero => exact absurd hdepth.pos (lt_irrefl 0)
  | succ depth ih =>
      obtain ⟨depth', rfl⟩ := Nat.exists_eq_add_of_lt hdepth'.pos
      rw [Nat.zero_add] at hdepth' ⊢
      have hself := h name (Meets.mention (by simp [names]))
      rw [resolve, resolve, ← hself]
      cases hbinding : table[name]? with
      | none => rfl
      | some binding =>
          dsimp only
          split_ifs with hpath
          · rfl
          · refine reduce_congr fun next hnext => ?_
            exact ih (hdepth.cons (mem_of_getElem?_eq_some hbinding) hpath)
              (hdepth'.cons (mem_of_getElem?_eq_some (hself ▸ hbinding)) hpath) fun met hmet =>
                h met (Meets.follow (by simp [names]) hbinding (hmet.of_ref hnext))

/-- They give an expression the same worth. -/
lemma evaluate_congr {e : Expr}
    (h : ∀ met, Meets (fun name => table[name]?) e met → table[met]? = other[met]?) :
    e.evaluate table = e.evaluate other :=
  reduce_congr fun _ hname => resolve_congr (DeepEnough.start table) (DeepEnough.start other)
    fun met hmet => h met (hmet.of_ref hname)

/-- An evaluation that ends with a name has met it. -/
lemma meets_of_resolve {depth : Nat} {path : List String} {name id : String}
    (h : resolve table depth path name = .ok (.ref id)) :
    Meets (fun name => table[name]?) (.ref name) id := by
  induction depth generalizing path name with
  | zero => simp [resolve] at h
  | succ depth ih =>
      rw [resolve] at h
      cases hbinding : table[name]? with
      | none =>
          simp only [hbinding, Except.ok.injEq, Expr.ref.injEq] at h
          exact Meets.mention (by simp [names, h])
      | some binding =>
          simp only [hbinding] at h
          split_ifs at h
          obtain ⟨next, rfl, hnext⟩ := reduce_eq_ref h
          exact Meets.follow (by simp [names]) hbinding (ih hnext)

/-! ### The forms of a worth -/

/-- A number, nothing, or a name that stands for nothing. -/
def Settled (unbound : String → Prop) : Expr → Prop
  | .const _ | .empty => True
  | .ref name => unbound name
  | .op _ _ => False

/-- An expression is worth something settled if its names are. -/
lemma reduce_settled {unbound : String → Prop} {worth : String → Except EvalFault Expr}
    {e v : Expr} (hnames : ∀ name ∈ e.names, ∀ v, worth name = .ok v → Settled unbound v)
    (h : e.reduce worth = .ok v) : Settled unbound v := by
  cases e with
  | const n =>
      rw [reduce, Except.ok.injEq] at h
      subst h
      trivial
  | ref name =>
      rw [reduce] at h
      exact hnames name (by simp [names]) v h
  | empty =>
      rw [reduce, Except.ok.injEq] at h
      subst h
      trivial
  | op operator es =>
      obtain ⟨⟨value, rfl⟩, -⟩ := reduce_op_eq_ok h
      trivial

/-- What a name is worth is settled. -/
lemma resolve_settled {depth : Nat} {path : List String} {name : String} {v : Expr}
    (h : resolve table depth path name = .ok v) :
    Settled (fun id => table[id]? = none) v := by
  induction depth generalizing path name v with
  | zero => simp [resolve] at h
  | succ depth ih =>
      rw [resolve] at h
      cases hbinding : table[name]? with
      | none =>
          simp only [hbinding, Except.ok.injEq] at h
          subst h
          exact hbinding
      | some binding =>
          simp only [hbinding] at h
          split_ifs at h
          exact reduce_settled (fun next _ v hv => ih hv) h

/-- What is settled under a table is worth itself. -/
lemma reduce_of_settled {depth : Nat} {path : List String} {v : Expr} (hdepth : 0 < depth)
    (h : Settled (fun id => table[id]? = none) v) :
    v.reduce (resolve table depth path) = .ok v := by
  obtain ⟨depth, rfl⟩ := Nat.exists_eq_add_of_lt hdepth
  cases v with
  | const n => rw [reduce]
  | ref name =>
      have hnone : table[name]? = none := h
      rw [reduce, Nat.zero_add, resolve, hnone]
  | empty => rw [reduce]
  | op operator es => exact absurd h id

/-- What an expression is worth by itself, if its names stand for nothing. -/
def selfWorth (e : Expr) : Except EvalFault Expr :=
  e.reduce fun name => .ok (.ref name)

/-- What mentions nothing that is bound is worth under a table what it is worth by itself. -/
lemma reduce_of_unbound {depth : Nat} {path : List String} {e : Expr} (hdepth : 0 < depth)
    (h : ∀ name ∈ e.names, table[name]? = none) :
    e.reduce (resolve table depth path) = e.selfWorth := by
  obtain ⟨depth, rfl⟩ := Nat.exists_eq_add_of_lt hdepth
  refine reduce_congr fun name hname => ?_
  rw [Nat.zero_add, resolve, h name hname]

/-- What is settled mentions nothing that is bound. -/
lemma Settled.unbound_of_mem {unbound : String → Prop} {v : Expr} (h : Settled unbound v)
    {name : String} (hname : name ∈ v.names) : unbound name := by
  cases v with
  | const n => exact absurd hname List.not_mem_nil
  | ref id => exact List.mem_singleton.mp hname ▸ h
  | empty => exact absurd hname List.not_mem_nil
  | op operator es => exact absurd h id

/-- What is settled is worth itself. -/
lemma Settled.selfWorth_eq {unbound : String → Prop} {v : Expr} (h : Settled unbound v) :
    v.selfWorth = .ok v := by
  cases v with
  | op operator es => exact absurd h id
  | _ => rw [selfWorth, reduce]

end Expr

end Spreadsheet
