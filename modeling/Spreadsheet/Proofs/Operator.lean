import Mathlib.Tactic
import Spreadsheet.Expr.Evaluation

/-!
Operators against exact integers.

An operator goes through its operands from left to right, on words of 64 bits. What it finds can
be said with integers of any size, where the order of steps plays no part:

* `result?_plus`, `result?_minus`, `result?_times`: sums, differences and products wrap at every
  step, which comes to the exact result wrapped once (`foldl_wrap`);
* `toInt_foldl_div`: quotients do not wrap, unless the least number is divided, and cutting off
  at every step comes to cutting off once, after division by the product (`tdiv_tdiv`);
* `result?_less`, `result?_equal`: a comparison of neighbours is one of all operands;
* `result?_exact` puts these together, with what follows for operands in another order.
-/

namespace Spreadsheet.Operator

variable {a b : Int64} {bs cs : List Int64}

/-! ### Sums, differences and products -/

/-- Steps that wrap come to the exact steps, wrapped at the end. -/
lemma foldl_wrap {f : Int64 → Int64 → Int64} {g : Int → Int → Int}
    (h : ∀ x y, f (Int64.ofInt x) (Int64.ofInt y) = Int64.ofInt (g x y)) (a : Int64)
    (bs : List Int64) :
    bs.foldl f a = Int64.ofInt ((bs.map Int64.toInt).foldl g a.toInt) := by
  have hstep : ∀ (x : Int) (b : Int64), f (Int64.ofInt x) b = Int64.ofInt (g x b.toInt) :=
    fun x b => by rw [← h, Int64.ofInt_toInt]
  rw [List.foldl_map, ← List.foldl_hom Int64.ofInt hstep, Int64.ofInt_toInt]

/-- To take numbers away one after the other is to take away their sum. -/
lemma foldl_sub (x : Int) (ys : List Int) : ys.foldl (· - ·) x = x - ys.sum := by
  induction ys generalizing x with
  | nil => simp
  | cons y ys ih => rw [List.foldl_cons, ih, List.sum_cons, sub_sub]

lemma result?_plus (a : Int64) (bs : List Int64) :
    plus.result? (a :: bs) = some (Int64.ofInt ((a :: bs).map Int64.toInt).sum) := by
  rw [result?, foldl_wrap fun x y => (Int64.ofInt_add x y).symm, List.map_cons,
    List.sum_eq_foldl, List.foldl_cons, zero_add]

lemma result?_minus (a : Int64) (bs : List Int64) :
    minus.result? (a :: bs) = some (Int64.ofInt (a.toInt - (bs.map Int64.toInt).sum)) := by
  rw [result?, foldl_wrap fun x y => (Int64.ofInt_sub x y).symm, foldl_sub]

lemma result?_times (a : Int64) (bs : List Int64) :
    times.result? (a :: bs) = some (Int64.ofInt ((a :: bs).map Int64.toInt).prod) := by
  rw [result?, foldl_wrap fun x y => (Int64.ofInt_mul x y).symm, List.map_cons,
    List.prod_eq_foldl, List.foldl_cons, one_mul]

/-! ### Quotients -/

/-- To divide by two numbers, one after the other, is to divide by their product. -/
lemma tdiv_tdiv (x y z : Int) : (x.tdiv y).tdiv z = x.tdiv (y * z) := by
  obtain ⟨k, rfl | rfl⟩ := x.eq_nat_or_neg <;> obtain ⟨m, rfl | rfl⟩ := y.eq_nat_or_neg <;>
    obtain ⟨n, rfl | rfl⟩ := z.eq_nat_or_neg <;>
    simp only [Int.neg_tdiv, Int.tdiv_neg, neg_mul, mul_neg, neg_neg, ← Int.natCast_mul,
      ← Int.ofNat_tdiv, Nat.div_div_eq_div_mul]

/-- A quotient of any number but the least is exact, and not the least number either. -/
lemma toInt_div (ha : a ≠ Int64.minValue) (b : Int64) :
    (a / b).toInt = a.toInt.tdiv b.toInt ∧ a / b ≠ Int64.minValue := by
  have hquotient := Int64.toInt_div_of_ne_left a b ha
  refine ⟨hquotient, fun hmin => ha (Int64.toInt_inj.mp ?_)⟩
  have hle := Int.natAbs_tdiv_le_natAbs a.toInt b.toInt
  rw [← hquotient, hmin, Int64.toInt_minValue] at hle
  have hlower := a.le_toInt
  have hupper := a.toInt_lt
  rw [Int64.toInt_minValue]
  omega

/-- Divisors, one after the other, come to their product. -/
lemma toInt_foldl_div (ha : a ≠ Int64.minValue) (bs : List Int64) :
    (bs.foldl (· / ·) a).toInt = a.toInt.tdiv (bs.map Int64.toInt).prod := by
  induction bs generalizing a with
  | nil => simp
  | cons b bs ih =>
      obtain ⟨hquotient, hmin⟩ := toInt_div ha b
      rw [List.foldl_cons, ih hmin, hquotient, tdiv_tdiv, List.map_cons, List.prod_cons]

lemma result?_divide (hzero : 0 ∉ bs) :
    divide.result? (a :: bs) = some (bs.foldl (· / ·) a) :=
  if_neg hzero

lemma result?_divide_zero (hzero : 0 ∈ bs) : divide.result? (a :: bs) = none :=
  if_pos hzero

/-- Divisors can change places. -/
lemma result?_divide_perm (ha : a ≠ Int64.minValue) (h : bs.Perm cs) :
    divide.result? (a :: cs) = divide.result? (a :: bs) := by
  by_cases hzero : 0 ∈ bs
  · rw [result?_divide_zero hzero, result?_divide_zero (h.mem_iff.mp hzero)]
  · rw [result?_divide hzero, result?_divide fun hmem => hzero (h.mem_iff.mpr hmem),
      Option.some.injEq, ← Int64.toInt_inj, toInt_foldl_div ha, toInt_foldl_div ha,
      (h.map Int64.toInt).prod_eq]

/-- From the least number on they cannot: the first quotient may wrap. -/
example : divide.result? [Int64.minValue, -1, 2] = some (-4611686018427387904) ∧
    divide.result? [Int64.minValue, 2, -1] = some 4611686018427387904 := by
  decide

/-! ### Comparisons -/

/-- A relation that goes from neighbour to neighbour holds of any two operands. -/
lemma holdsBetween_iff {r : Int64 → Int64 → Prop} [DecidableRel r] [Trans r r r] :
    holdsBetween (fun a b => decide (r a b)) bs = true ↔ bs.Pairwise r := by
  rw [← List.isChain_iff_pairwise]
  fun_induction holdsBetween (fun a b => decide (r a b)) bs with
  | case1 a b rest ih =>
      rw [Bool.and_eq_true, decide_eq_true_eq, ih, List.isChain_cons_cons]
  | case2 bs hshort =>
      match bs with
      | [] => simp
      | [a] => simp
      | a :: b :: rest => exact absurd rfl (hshort a b rest)

lemma result?_less (a : Int64) (bs : List Int64) :
    less.result? (a :: bs) = some (truth (decide ((a :: bs).Pairwise (· < ·)))) := by
  rw [result?, Option.some.injEq]
  exact congrArg truth (Bool.eq_iff_iff.mpr (holdsBetween_iff.trans decide_eq_true_iff.symm))

/-- Operands that are equal one after the other are all equal. -/
lemma pairwise_eq_iff : bs.Pairwise (· = ·) ↔ ∀ x ∈ bs, ∀ y ∈ bs, x = y :=
  ⟨fun h _ hx _ hy => h.forall_of_forall (fun _ _ => rfl) hx hy,
    List.pairwise_of_forall_mem_list⟩

lemma result?_equal (a : Int64) (bs : List Int64) :
    equal.result? (a :: bs) = some (truth (decide ((a :: bs).Pairwise (· = ·)))) := by
  rw [result?, Option.some.injEq]
  exact congrArg truth (Bool.eq_iff_iff.mpr (holdsBetween_iff.trans decide_eq_true_iff.symm))

/-! ### All operators -/

/-- Operands of sums, products and comparisons for equality can change places. -/
lemma result?_perm {operator : Operator} (hoperator : operator ∈ [plus, times, equal])
    (h : (a :: bs).Perm cs) : operator.result? cs = operator.result? (a :: bs) := by
  obtain ⟨c, cs, rfl⟩ : ∃ c rest, cs = c :: rest :=
    List.exists_cons_of_ne_nil fun hnil => List.cons_ne_nil a bs (List.perm_nil.mp (hnil ▸ h))
  have hmap := h.map Int64.toInt
  simp only [List.mem_cons, List.not_mem_nil, or_false] at hoperator
  rcases hoperator with rfl | rfl | rfl
  · rw [result?_plus, result?_plus, hmap.sum_eq]
  · rw [result?_times, result?_times, hmap.prod_eq]
  · rw [result?_equal, result?_equal]
    simp only [h.pairwise_iff Eq.symm]

/-- **Operators are exact.** On one number or more, sum, difference and product are the exact ones,
wrapped to 64 bits. A quotient fails exactly if a divisor is zero, and is otherwise the exact
quotient by the product of the divisors, cut off towards zero, unless the least number is divided;
so the divisors can change places. A comparison holds if it holds of each operand and all later
ones, and is `1` then and `0` otherwise. Operands of `+`, `*` and `=` can change places. -/
theorem result?_exact (a : Int64) (bs : List Int64) :
    (∃ r, plus.result? (a :: bs) = some r ∧
      r.toInt = (a.toInt + (bs.map Int64.toInt).sum).bmod (2 ^ 64)) ∧
    (∃ r, minus.result? (a :: bs) = some r ∧
      r.toInt = (a.toInt - (bs.map Int64.toInt).sum).bmod (2 ^ 64)) ∧
    (∃ r, times.result? (a :: bs) = some r ∧
      r.toInt = (a.toInt * (bs.map Int64.toInt).prod).bmod (2 ^ 64)) ∧
    (Expr.applyOperator divide (a :: bs) = .error .divisionByZero ↔ 0 ∈ bs) ∧
    (0 ∉ bs → a ≠ Int64.minValue → ∃ r, divide.result? (a :: bs) = some r ∧
      r.toInt = a.toInt.tdiv (bs.map Int64.toInt).prod) ∧
    (a ≠ Int64.minValue → ∀ cs, bs.Perm cs →
      divide.result? (a :: cs) = divide.result? (a :: bs)) ∧
    ((a :: bs).Pairwise (· < ·) → less.result? (a :: bs) = some 1) ∧
    (¬ (a :: bs).Pairwise (· < ·) → less.result? (a :: bs) = some 0) ∧
    ((∀ x ∈ a :: bs, ∀ y ∈ a :: bs, x = y) → equal.result? (a :: bs) = some 1) ∧
    (¬ (∀ x ∈ a :: bs, ∀ y ∈ a :: bs, x = y) → equal.result? (a :: bs) = some 0) ∧
    ∀ operator ∈ [plus, times, equal], ∀ cs, (a :: bs).Perm cs →
      operator.result? cs = operator.result? (a :: bs) := by
  refine ⟨⟨_, result?_plus a bs, Int64.toInt_ofInt⟩, ⟨_, result?_minus a bs, Int64.toInt_ofInt⟩,
    ⟨_, result?_times a bs, Int64.toInt_ofInt⟩, ?_,
    fun hzero ha => ⟨_, result?_divide hzero, toInt_foldl_div ha bs⟩,
    fun ha cs h => result?_divide_perm ha h, fun h => ?_, fun h => ?_, fun h => ?_, fun h => ?_,
    fun _ hoperator _ h => result?_perm hoperator h⟩
  · rw [Expr.applyOperator]
    by_cases hzero : 0 ∈ bs
    · simp [result?_divide_zero hzero, hzero]
    · simp [result?_divide hzero, hzero]
  · rw [result?_less, decide_eq_true h, truth, if_pos rfl]
  · rw [result?_less, decide_eq_false h, truth, if_neg Bool.false_ne_true]
  · rw [result?_equal, decide_eq_true (pairwise_eq_iff.mpr h), truth, if_pos rfl]
  · rw [← pairwise_eq_iff] at h
    rw [result?_equal, decide_eq_false h, truth, if_neg Bool.false_ne_true]

/-- Seven below zero, divided by two and by three below zero. -/
theorem result?_exact_quotient : (0 : Int64) ∉ [2, -3] ∧ (-7 : Int64) ≠ Int64.minValue ∧
    [2, -3].Perm [-3, 2] ∧ divide.result? [-7, -3, 2] = divide.result? [-7, 2, -3] ∧
    ∃ r, divide.result? [-7, 2, -3] = some r ∧ r.toInt = 1 := by
  obtain ⟨-, -, -, -, hquotient, hperm, -⟩ := result?_exact (-7) [2, -3]
  have hzero : (0 : Int64) ∉ [2, -3] := by decide
  have hmin : (-7 : Int64) ≠ Int64.minValue := by decide
  exact ⟨hzero, hmin, .swap .., hperm hmin _ (.swap ..), hquotient hzero hmin⟩

end Spreadsheet.Operator
