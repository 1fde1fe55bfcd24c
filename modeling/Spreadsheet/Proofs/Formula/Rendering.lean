import Mathlib.Tactic
import Spreadsheet.Proofs.Formula.Reading

/-!
Reading what has been written for an expression.

* `trimmed_text`: an expression without empty operands is written without blanks at the ends;
* `read_text`: the text of an expression that fits the levels is read as the expression
  without its operators on a single operand, provided that no operator ends with an empty
  operand;
* `joins_of_read`: an expression that is read back has no operator on a single operand, and
  none that ends with an empty one.
-/

namespace Spreadsheet.Formula

open Text

variable {e part : Expr}

section Levels

variable {operator : Operator} {levels tighter : List Operator} {es : List Expr}

/-! ### Texts of expressions -/

/-- Only an empty expression is written with blanks alone. -/
lemma not_blanks_text (hfits : Fits levels e) (hends : e.Ends) (hsome : e ≠ .empty) :
    ¬ Blanks e.text := by
  induction hfits with
  | @const levels n hn =>
      rw [Expr.text]
      have hread := readSigned?_signedText n
      have hne : signedText n ≠ [] := by
        intro hnil
        rw [hnil] at hread
        cases hread
      obtain ⟨c, hc⟩ := List.exists_mem_of_ne_nil _ hne
      exact fun hblanks => hblanks.notMem (isBlank_of_readSigned? hread c hc) hc
  | @ref levels name hname =>
      rw [Expr.text]
      have hne : name.toList ≠ [] := fun hnil => hname.ne_empty (by simpa using hnil)
      obtain ⟨c, hc⟩ := List.exists_mem_of_ne_nil _ hne
      exact fun hblanks =>
        hblanks.notMem (isBlank_of_isAlphanumeric (hname.alphanumeric c hc)) hc
  | empty => exact absurd rfl hsome
  | @op levels before tighter operator operands hlevels hne hoperands ih =>
      have hmem := List.getLast_mem hne
      have hpart := (Expr.everywhere_op_iff.mp hends).2 _ hmem
      intro hblanks
      exact ih _ hmem hpart (hends.getLast_ne_empty hne) fun c hc =>
        hblanks c (Expr.mem_text_of_mem hmem hc)

lemma text_ne_nil (hfits : Fits levels e) (hends : e.Ends) (hsome : e ≠ .empty) : e.text ≠ [] := by
  intro hnil
  refine not_blanks_text hfits hends hsome fun c hc => ?_
  rw [hnil] at hc
  exact absurd hc List.not_mem_nil

lemma trimmed_text_op (hne : es ≠ []) (hes : ∀ e ∈ es, e.text ≠ [] ∧ Trimmed e.text) :
    (Expr.op operator es).text ≠ [] ∧ Trimmed (Expr.op operator es).text := by
  induction es with
  | nil => exact absurd rfl hne
  | cons first rest ih =>
      obtain ⟨hfirst, htrim⟩ := hes first List.mem_cons_self
      cases rest with
      | nil =>
          rw [Expr.text_op_singleton]
          exact ⟨hfirst, htrim⟩
      | cons next others =>
          obtain ⟨hrest, htrim'⟩ := ih (List.cons_ne_nil _ _) fun e he =>
            hes e (List.mem_cons_of_mem _ he)
          rw [Expr.text_op_cons_cons]
          exact ⟨List.append_ne_nil_of_left_ne_nil hfirst _,
            htrim.append htrim' hfirst hrest [' ', operator.symbol, ' ']⟩

/-- Without empty operands there are no blanks at the ends of the text. -/
theorem trimmed_text (hfits : Fits levels e) (hfilled : e.Filled) : Trimmed e.text := by
  induction hfits with
  | @const levels n hn =>
      rw [Expr.text]
      exact trimmed_of_forall (isBlank_of_readSigned? (readSigned?_signedText n))
  | ref hname =>
      rw [Expr.text]
      exact trimmed_of_forall fun c hc => isBlank_of_isAlphanumeric (hname.alphanumeric c hc)
  | empty =>
      rw [Expr.text]
      exact trimmed_of_forall fun c hc => absurd hc List.not_mem_nil
  | op hlevels hne hoperands ih =>
      obtain ⟨hempty, hparts⟩ := Expr.everywhere_op_iff.mp hfilled
      refine (trimmed_text_op hne fun e he => ⟨?_, ih e he (hparts e he)⟩).2
      exact text_ne_nil (hoperands e he) (Expr.Filled.ends (hparts e he)) fun heq =>
        hempty (heq ▸ he)

/-- With two operands or more there is a blank inside the text, so it is no number. -/
lemma readSigned?_text_op {first next : Expr} {rest : List Expr}
    (hlast : ¬ Blanks (Expr.op operator (next :: rest)).text) :
    readSigned? (trim (Expr.op operator (first :: next :: rest)).text) = none := by
  have htext : (Expr.op operator (first :: next :: rest)).text =
      (first.text ++ [' ', operator.symbol]) ++ ' ' :: (Expr.op operator (next :: rest)).text := by
    simp [Expr.text_op_cons_cons]
  have hblank : ' ' ∈ trim (Expr.op operator (first :: next :: rest)).text := by
    rw [htext]
    refine mem_trim_of_between (fun hblanks => ?_) hlast
    exact hblanks.notMem operator.isBlank_symbol (by simp)
  cases hnumber : readSigned? (trim (Expr.op operator (first :: next :: rest)).text) with
  | none => rfl
  | some value => exact absurd (isBlank_of_readSigned? hnumber ' ' hblank) (by decide)

lemma symbol_mem_text_op (operator : Operator) (hlength : 2 ≤ es.length) :
    operator.symbol ∈ (Expr.op operator es).text := by
  match es, hlength with
  | first :: next :: rest, _ =>
      simp [Expr.text_op_cons_cons]

lemma symbol_notMem_map_text (hes : ∀ e ∈ es, Fits tighter e) (hother : operator ∉ tighter) :
    ∀ text ∈ es.map Expr.text, operator.symbol ∉ text := by
  intro text htext
  obtain ⟨e, he, rfl⟩ := List.mem_map.mp htext
  exact symbol_notMem_text (hes e he) hother

/-! ### Texts that are read -/

/-- A list of texts is read member by member. -/
lemma mapM_text_eq_ok {f : Expr → Expr} : (es.map Expr.text).mapM (read levels) = .ok (es.map f) ↔
    ∀ e ∈ es, read levels e.text = .ok (f e) := by
  rw [List.mapM_map, ← mapM_eq_ok_map_iff]
  rfl

/-- The text of an operator over two operands or more is cut into the texts of these, if the
last of them is not blank. -/
lemma read_text_op (hes : ∀ e ∈ es, Fits tighter e) (hother : operator ∉ tighter)
    (hlength : 2 ≤ es.length) {last : Expr} (hlast : last ∈ es.getLast?)
    (hblank : ¬ Blanks last.text) :
    read (operator :: tighter) (Expr.op operator es).text =
      (es.map Expr.text).mapM (read tighter) >>= application operator := by
  have hnumber : readSigned? (trim (Expr.op operator es).text) = none := by
    match es, hlength with
    | first :: next :: rest, _ =>
        refine readSigned?_text_op fun hblanks => hblank fun c hc => hblanks c ?_
        rw [List.getLast?_cons_cons] at hlast
        exact Expr.mem_text_of_mem (List.mem_of_getLast? hlast) hc
  have hsymbol := (mem_trim_iff operator.isBlank_symbol).mpr (symbol_mem_text_op operator hlength)
  have hend : last.text ∈ (es.map Expr.text).getLast? := by
    rw [List.getLast?_map, Option.mem_def.mp hlast]
    rfl
  have hpieces := map_trim_pieces (symbol_notMem_map_text hes hother) hend hblank
  rw [read_cut hnumber hsymbol, Expr.text_op, mapM_read_congr hpieces]

/-- Levels before those that an expression fits do not matter. -/
lemma read_text_skip {before : List Operator} (hnodup : (before ++ tighter).Nodup)
    (hfits : Fits tighter e) : read (before ++ tighter) e.text = read tighter e.text :=
  read_skip fun other hmem => symbol_notMem_text hfits fun htighter =>
    (List.nodup_append.mp hnodup).2.2 other hmem other htighter rfl

/-- Neither does the level of an operator on a single operand. -/
lemma read_text_singleton {before : List Operator}
    (hnodup : (before ++ operator :: tighter).Nodup) (hfits : Fits tighter e) :
    read (before ++ operator :: tighter) (Expr.op operator [e]).text = read tighter e.text := by
  rw [List.append_cons] at hnodup ⊢
  rw [Expr.text_op_singleton, read_text_skip hnodup hfits]

/-- What has no operators is read in the same way at all levels. -/
lemma read_text_atom (hfits : Fits [] e) : read levels e.text = read [] e.text :=
  calc read levels e.text = read (levels ++ []) e.text := by rw [List.append_nil]
    _ = read [] e.text := read_skip fun _ _ => symbol_notMem_text hfits List.not_mem_nil

/-- A name is read as a name. -/
lemma read_text_ref {name : String} (hname : IsName name) :
    read levels (Expr.ref name).text = .ok (.ref name) := by
  have htrim : Trimmed name.toList := trimmed_of_forall fun c hc =>
    isBlank_of_isAlphanumeric (hname.alphanumeric c hc)
  have hfind : name.toList.find? (fun c => !isAlphanumeric c) = none := by
    simpa using hname.alphanumeric
  have hsome : name.toList.isEmpty = false := by
    simpa using hname.ne_empty
  rw [read_text_atom (.ref hname), read, Expr.text, htrim.trim_eq, atom]
  simp [hname.not_number, hfind, hsome]

/-- **Reading what is written.** The text of an expression that fits the levels is read as the
expression without its operators on a single operand. -/
theorem read_text (hfits : Fits levels e) (hends : e.Ends) (hnodup : levels.Nodup) :
    read levels e.text = .ok e.collapse := by
  induction hfits with
  | @const levels n hn =>
      have hread := readSigned?_signedText n
      rw [Expr.text, Expr.collapse]
      refine read_of_number ?_
      rwa [(trimmed_of_forall (isBlank_of_readSigned? hread)).trim_eq]
  | @ref levels name hname => rw [read_text_ref hname, Expr.collapse]
  | @empty levels =>
      rw [read_text_atom .empty, Expr.collapse]
      rfl
  | @op levels before tighter operator operands hlevels hne hoperands ih =>
      have hparts := (Expr.everywhere_op_iff.mp hends).2
      subst hlevels
      have hnodup' := (List.nodup_append.mp hnodup).2.1
      obtain ⟨hother, htighter⟩ := List.nodup_cons.mp hnodup'
      -- a single operand is written without the operator, others are cut at its symbol
      by_cases hlength : operands.length = 1
      · obtain ⟨e, rfl⟩ := List.length_eq_one_iff.mp hlength
        have he := List.mem_singleton_self e
        rw [read_text_singleton hnodup (hoperands e he), Expr.collapse_singleton]
        exact ih e he (hparts e he) htighter
      · have hlength' : 2 ≤ operands.length := by
          have := List.length_pos_of_ne_nil hne
          omega
        have hmem := List.getLast_mem hne
        have hblank := not_blanks_text (hoperands _ hmem) (hparts _ hmem)
          (hends.getLast_ne_empty hne)
        have hread : (operands.map Expr.text).mapM (read tighter) =
            .ok (operands.map Expr.collapse) :=
          mapM_text_eq_ok.mpr fun e he => ih e he (hparts e he) htighter
        rw [read_text_skip hnodup (.loosest hne hoperands),
          read_text_op hoperands hother hlength' (List.getLast?_eq_some_getLast hne) hblank, hread,
          Expr.collapse_op hlength]
        exact application_of_ne_nil (by simpa using hne)

/-- A single operand is not read as an operator: it is of tighter levels, and so is whatever its
text is read as. -/
lemma read_text_singleton_ne {before : List Operator}
    (hnodup : (before ++ operator :: tighter).Nodup) (hfits : Fits tighter e) :
    read (before ++ operator :: tighter) (Expr.op operator [e]).text ≠ .ok (.op operator es) := by
  intro h
  rw [read_text_singleton hnodup hfits] at h
  have hsign : '-' ∈ e.text → .minus ∈ tighter := by
    intro hmem
    by_contra hminus
    exact symbol_notMem_text hfits hminus hmem
  cases fits_of_read h hsign with
  | op hlevels _ _ =>
      refine (List.nodup_cons.mp (List.nodup_append.mp hnodup).2.1).1 ?_
      rw [hlevels]
      exact List.mem_append_right _ List.mem_cons_self

/-- If an operator over two operands or more is read back, then so are its operands, and the
last of them is not empty. -/
lemma operands_of_read (hes : ∀ e ∈ es, Fits tighter e) (hother : operator ∉ tighter)
    (hlength : 2 ≤ es.length)
    (h : read (operator :: tighter) (Expr.op operator es).text = .ok (.op operator es)) :
    es.getLast? ≠ some .empty ∧ ∀ e ∈ es, read tighter e.text = .ok e := by
  have hne : es ≠ [] := List.ne_nil_of_length_pos (by omega)
  have hlast := List.getLast?_eq_some_getLast hne
  have hnumber : readSigned? (trim (Expr.op operator es).text) = none := by
    cases hnumber : readSigned? (trim (Expr.op operator es).text) with
    | none => rfl
    | some value =>
        rw [read_of_number hnumber] at h
        cases h
  have hsymbol := (mem_trim_iff operator.isBlank_symbol).mpr (symbol_mem_text_op operator hlength)
  have hblank : ¬ Blanks (es.getLast hne).text := by
    intro hblank
    have hcut := h
    rw [read_cut hnumber hsymbol, bind_eq_ok_iff] at hcut
    obtain ⟨parts, hparts, happly⟩ := hcut
    obtain ⟨-, rfl⟩ := Expr.op.inj (application_eq_ok happly).2
    have hend : (es.getLast hne).text ∈ (es.map Expr.text).getLast? := by
      rw [List.getLast?_map, hlast]
      rfl
    -- as many pieces as operands have been read, but the last of them has been dropped
    have hlt := length_pieces_lt (symbol_notMem_map_text hes hother) hend hblank
    rw [← Expr.text_op, ← length_of_mapM hparts, List.length_map] at hlt
    exact lt_irrefl _ hlt
  constructor
  · intro hempty
    obtain heq : es.getLast hne = .empty := Option.some.inj (hlast.symm.trans hempty)
    rw [heq] at hblank
    exact hblank fun c hc => absurd hc List.not_mem_nil
  · rw [read_text_op hes hother hlength hlast hblank, bind_eq_ok_iff] at h
    obtain ⟨parts, hparts, happly⟩ := h
    obtain ⟨-, rfl⟩ := Expr.op.inj (application_eq_ok happly).2
    exact mapM_text_eq_ok.mp (by rwa [List.map_id'])

/-- **What is read back** has no operator on a single operand, and none that ends with an empty
operand: the first is not written, and of the second there are too few pieces. -/
theorem joins_of_read (hfits : Fits levels e) (hnodup : levels.Nodup)
    (h : read levels e.text = .ok e) : e.Joins ∧ e.Ends := by
  induction hfits with
  | const hn => exact ⟨Expr.everywhere_of_ne (by simp), Expr.everywhere_of_ne (by simp)⟩
  | ref hname => exact ⟨Expr.everywhere_of_ne (by simp), Expr.everywhere_of_ne (by simp)⟩
  | empty => exact ⟨Expr.everywhere_of_ne (by simp), Expr.everywhere_of_ne (by simp)⟩
  | @op levels before tighter operator operands hlevels hne hoperands ih =>
      subst hlevels
      obtain ⟨hother, htighter⟩ := List.nodup_cons.mp (List.nodup_append.mp hnodup).2.1
      have hlength : 2 ≤ operands.length := by
        by_contra hshort
        have hpos := List.length_pos_of_ne_nil hne
        obtain ⟨e, rfl⟩ := List.length_eq_one_iff.mp (by omega : operands.length = 1)
        exact read_text_singleton_ne hnodup (hoperands e (List.mem_singleton_self e)) h
      rw [read_text_skip hnodup (.loosest hne hoperands)] at h
      obtain ⟨hlast, hread⟩ := operands_of_read hoperands hother hlength h
      have hparts := fun e he => ih e he htighter (hread e he)
      exact ⟨Expr.everywhere_op_iff.mpr ⟨hlength, fun e he => (hparts e he).1⟩,
        Expr.everywhere_op_iff.mpr ⟨hlast, fun e he => (hparts e he).2⟩⟩

end Levels

/-! ### Whole formulas -/

/-- A rendered expression is read from its characters. -/
lemma parse_render_eq_ok_iff : parse e.render = .ok part ↔ read levels e.text = .ok part := by
  rw [parse, Expr.render, String.toList_ofList]
  cases read levels e.text <;> simp

lemma levels_nodup : levels.Nodup := by decide

/-- What a formula is read as fits the levels. -/
lemma fits_of_parse {text : String} (h : parse text = .ok e) : Fits levels e := by
  rw [parse] at h
  split at h
  · next hread =>
      obtain rfl := Except.ok.inj h
      exact fits_of_read hread fun _ => by decide
  · cases h

end Spreadsheet.Formula
