import Mathlib.Tactic
import Spreadsheet.Formula
import Spreadsheet.Proofs.Expr.Shape
import Spreadsheet.Proofs.Text.Characters
import Spreadsheet.Proofs.Text.Trimming

/-!
How formulas are read, level by level.

* `read_trim` and `mapM_read_congr`: blanks at the ends of a text do not matter;
* `read_skip`: levels whose symbols do not occur are passed over;
* `map_trim_pieces` and `length_pieces_lt`: texts that are set with a symbol between them are
  recovered as the pieces, unless the last of them is blank and hence dropped;
* `Fits` describes the expressions that can be read at some levels (`fits_of_read`), and
  `mem_text_of_fits` says which characters they are written with.
-/

namespace Spreadsheet.Formula

open Text

variable {operator : Operator} {levels before tighter : List Operator} {text : List Char}
  {e : Expr} {es : List Expr}

/-! ### Reading at a level -/

/-- Blanks at the ends do not matter. -/
lemma read_trim (levels : List Operator) (text : List Char) :
    read levels (trim text) = read levels text := by
  cases levels with
  | nil => rw [read, read, trim_trim]
  | cons operator tighter => rw [read, read, trim_trim]

/-- A text that is a number is read as that number, at all levels. -/
lemma read_of_number {value : Int64} (h : readSigned? (trim text) = some value) :
    read levels text = .ok (.const value) := by
  cases levels with
  | nil => rw [read, atom, h]
  | cons operator tighter =>
      rw [read]
      simp only [h]

/-- A text with a symbol is cut there, unless it is a number. -/
lemma read_cut (hnumber : readSigned? (trim text) = none) (hmem : operator.symbol ∈ trim text) :
    read (operator :: tighter) text =
      ((pieces operator.symbol (trim text)).mapM (read tighter) >>= application operator) := by
  rw [read]
  simp only [hnumber, if_pos hmem]

/-- A symbol that does not occur is passed over. -/
lemma read_pass (hmem : operator.symbol ∉ trim text) :
    read (operator :: tighter) text = read tighter text := by
  cases hnumber : readSigned? (trim text) with
  | some value => rw [read_of_number hnumber, read_of_number hnumber]
  | none =>
      rw [read]
      simp only [hnumber, if_neg hmem]
      exact read_trim tighter text

/-- Symbols that do not occur are passed over. -/
lemma read_skip (h : ∀ operator ∈ before, operator.symbol ∉ text) :
    read (before ++ tighter) text = read tighter text := by
  induction before with
  | nil => rfl
  | cons operator rest ih =>
      have hmem : operator.symbol ∉ trim text := fun hmem =>
        h operator List.mem_cons_self (mem_of_mem_trim hmem)
      rw [List.cons_append, read_pass hmem]
      exact ih fun other hother => h other (List.mem_cons_of_mem _ hother)

/-- Only what is left after trimming is read of the members of a list. -/
lemma mapM_read_congr {texts others : List (List Char)} (h : texts.map trim = others.map trim) :
    texts.mapM (read levels) = others.mapM (read levels) := by
  have htrim : ∀ texts : List (List Char),
      texts.mapM (read levels) = (texts.map trim).mapM (read levels) := fun texts => by
    rw [List.mapM_map]
    exact congrArg (texts.mapM ·) (funext fun text => (read_trim levels text).symm)
  rw [htrim texts, htrim others, h]

lemma application_of_ne_nil (hne : es ≠ []) : application operator es = .ok (.op operator es) := by
  cases es with
  | nil => exact absurd rfl hne
  | cons first rest => rfl

lemma application_eq_ok (h : application operator es = .ok e) : es ≠ [] ∧ e = .op operator es := by
  cases es with
  | nil => cases h
  | cons first rest => exact ⟨List.cons_ne_nil _ _, (Except.ok.inj h).symm⟩

/-! ### Pieces -/

/-- Nothing is dropped if the last piece is not empty. -/
lemma pieces_eq_splitOn {symbol : Char} (h : [] ∉ (text.splitOn symbol).getLast?) :
    pieces symbol text = text.splitOn symbol := by
  rw [pieces]
  cases hreverse : (text.splitOn symbol).reverse with
  | nil => exact absurd (List.reverse_eq_nil_iff.mp hreverse) (List.splitOn_ne_nil symbol text)
  | cons last rest =>
      have hlast : last.isEmpty = false := by
        rw [List.isEmpty_eq_false_iff]
        rintro rfl
        refine h ?_
        rw [← List.head?_reverse, hreverse]
        rfl
      rw [List.dropWhile_cons_of_neg (by simp [hlast]), ← hreverse, List.reverse_reverse]

/-- Nothing is dropped if the last of the texts that the pieces are trimmed to is not blank. -/
lemma pieces_eq_of_map_trim {symbol : Char} {texts : List (List Char)} {last : List Char}
    (hmap : (text.splitOn symbol).map trim = texts.map trim) (hlast : last ∈ texts.getLast?)
    (hblank : ¬ Blanks last) : pieces symbol text = text.splitOn symbol := by
  refine pieces_eq_splitOn fun hempty => ?_
  have hend := congrArg List.getLast? hmap
  rw [List.getLast?_map, List.getLast?_map, Option.mem_def.mp hempty, Option.mem_def.mp hlast,
    Option.map_some, Option.map_some, Option.some.injEq] at hend
  exact hblank (trim_eq_nil_iff.mp hend.symm)

/-- Only empty pieces are dropped, so that the pieces are among those of the whole cut. -/
lemma mem_splitOn_of_mem_pieces {symbol : Char} {piece : List Char}
    (h : piece ∈ pieces symbol text) : piece ∈ text.splitOn symbol := by
  rw [pieces, List.mem_reverse] at h
  exact List.mem_reverse.mp ((List.dropWhile_sublist _).mem h)

/-- Something is dropped if the last piece is empty. -/
lemma length_pieces_lt_of_empty {symbol : Char} (h : [] ∈ (text.splitOn symbol).getLast?) :
    (pieces symbol text).length < (text.splitOn symbol).length := by
  have hlength : (text.splitOn symbol).reverse.length = (text.splitOn symbol).length :=
    List.length_reverse
  rw [pieces, List.length_reverse, ← hlength]
  rw [← List.head?_reverse] at h
  cases hreverse : (text.splitOn symbol).reverse with
  | nil => rw [hreverse] at h; cases h
  | cons last rest =>
      rw [hreverse] at h
      obtain rfl : last = [] := Option.some.inj h
      rw [List.dropWhile_cons_of_pos rfl, List.length_cons]
      exact Nat.lt_succ_of_le (List.dropWhile_sublist _).length_le

section Texts

variable {texts : List (List Char)} {last : List Char} (htexts : ∀ text ∈ texts,
  operator.symbol ∉ text)

include htexts

/-- The trimmed pieces of texts that are set with a symbol between them. -/
lemma map_trim_splitOn_texts (hlast : last ∈ texts.getLast?) :
    ((trim ([' ', operator.symbol, ' '].intercalate texts)).splitOn operator.symbol).map trim
      = texts.map trim := by
  have hne : texts ≠ [] := by
    rintro rfl
    cases hlast
  rw [map_trim_splitOn_trim operator.isBlank_symbol,
    map_trim_splitOn_intercalate operator.isBlank_symbol hne htexts]

/-- Texts that are set with a symbol between them are the pieces, if the last of them is not
blank. -/
theorem map_trim_pieces (hlast : last ∈ texts.getLast?) (hblank : ¬ Blanks last) :
    (pieces operator.symbol (trim ([' ', operator.symbol, ' '].intercalate texts))).map trim
      = texts.map trim := by
  have hmap := map_trim_splitOn_texts htexts hlast
  rw [pieces_eq_of_map_trim hmap hlast hblank, hmap]

/-- There are fewer pieces if the last of the texts is blank. -/
theorem length_pieces_lt (hlast : last ∈ texts.getLast?) (hblank : Blanks last) :
    (pieces operator.symbol (trim ([' ', operator.symbol, ' '].intercalate texts))).length
      < texts.length := by
  have hmap := map_trim_splitOn_texts htexts hlast
  have hlength := congrArg List.length hmap
  rw [List.length_map, List.length_map] at hlength
  rw [← hlength]
  refine length_pieces_lt_of_empty ?_
  have hend := congrArg List.getLast? hmap
  rw [List.getLast?_map, List.getLast?_map, Option.mem_def.mp hlast, Option.map_some,
    trim_eq_nil_iff.mpr hblank] at hend
  obtain ⟨piece, hpiece, htrim⟩ := Option.map_eq_some_iff.mp hend
  rwa [getLast_splitOn_trim hpiece (trim_eq_nil_iff.mp htrim)] at hpiece

end Texts

/-! ### What can be read -/

/-- A text that is read as a name: of letters and digits, and no number. -/
structure IsName (name : String) : Prop where
  ne_empty : name ≠ ""
  alphanumeric : ∀ c ∈ name.toList, isAlphanumeric c = true
  not_number : readSigned? name.toList = none

/-- The expression has the form of one that is read at the given levels: each operator has
operands, which are of tighter levels, and there is a number below zero only where the minus
sign is not a symbol that has been cut at. -/
inductive Fits : List Operator → Expr → Prop
  /-- A number. -/
  | const {levels : List Operator} {n : Int64} (hn : n < 0 → .minus ∈ levels) :
      Fits levels (.const n)
  /-- A name. -/
  | ref {levels : List Operator} {name : String} (hname : IsName name) : Fits levels (.ref name)
  /-- Nothing. -/
  | empty {levels : List Operator} : Fits levels .empty
  /-- An operator of some level, with operands of tighter ones. -/
  | op {levels before tighter : List Operator} {operator : Operator} {operands : List Expr}
      (hlevels : levels = before ++ operator :: tighter) (hne : operands ≠ [])
      (hoperands : ∀ e ∈ operands, Fits tighter e) : Fits levels (.op operator operands)

/-- An operator of the loosest level. -/
lemma Fits.loosest (hne : es ≠ []) (hes : ∀ e ∈ es, Fits tighter e) :
    Fits (operator :: tighter) (.op operator es) :=
  .op (List.nil_append _).symm hne hes

/-- More levels before the others allow for more. -/
lemma Fits.append_left (h : Fits tighter e) (before : List Operator) :
    Fits (before ++ tighter) e := by
  cases h with
  | const hn => exact .const fun hneg => List.mem_append_right _ (hn hneg)
  | ref hname => exact .ref hname
  | empty => exact .empty
  | op hlevels hne hoperands => exact .op (by rw [hlevels, List.append_assoc]) hne hoperands

/-- What an atom is read as. -/
lemma fits_of_atom (h : atom text = .ok e) (hsign : '-' ∈ text → .minus ∈ levels) :
    Fits levels e := by
  rw [atom] at h
  split at h
  · next value hvalue =>
      obtain rfl := Except.ok.inj h
      exact .const fun hneg => hsign (minus_mem_of_readSigned? hvalue hneg)
  · next hnumber =>
      split at h
      · cases h
      · next hfind =>
          obtain rfl := Except.ok.inj h
          split_ifs with hempty
          · exact .empty
          · refine .ref ⟨?_, ?_, ?_⟩
            · intro hnil
              have hlist : text = [] := by simpa using congrArg String.toList hnil
              exact hempty (by rw [hlist]; rfl)
            · rw [String.toList_ofList]
              intro c hc
              simpa using List.find?_eq_none.mp hfind c hc
            · rwa [String.toList_ofList]

/-- **What is read fits its levels.** A minus sign in the text needs the minus sign among the
levels, since otherwise it would have been cut at. -/
theorem fits_of_read (h : read levels text = .ok e) (hsign : '-' ∈ text → .minus ∈ levels) :
    Fits levels e := by
  induction levels generalizing text e with
  | nil =>
      rw [read] at h
      exact fits_of_atom h fun hmem => hsign (mem_of_mem_trim hmem)
  | cons operator tighter ih =>
      -- a piece without the symbol of the level has no minus sign if that is the symbol
      have htighter : ∀ {part : List Char}, (∀ c ∈ part, c ∈ text) → operator.symbol ∉ part →
          '-' ∈ part → .minus ∈ tighter := by
        intro part hpart hsymbol hminus
        refine (List.mem_cons.mp (hsign (hpart '-' hminus))).resolve_left ?_
        rintro rfl
        exact hsymbol hminus
      cases hnumber : readSigned? (trim text) with
      | some value =>
          rw [read_of_number hnumber] at h
          obtain rfl := Except.ok.inj h
          exact .const fun hneg => hsign (mem_of_mem_trim (minus_mem_of_readSigned? hnumber hneg))
      | none =>
          by_cases hmem : operator.symbol ∈ trim text
          · rw [read_cut hnumber hmem, bind_eq_ok_iff] at h
            obtain ⟨es, hes, happly⟩ := h
            obtain ⟨hne, rfl⟩ := application_eq_ok happly
            refine .loosest hne fun e he => ?_
            obtain ⟨piece, hpiece, hread⟩ := exists_of_mem_mapM hes he
            have hsplit : piece ∈ (trim text).splitOn operator.symbol :=
              mem_splitOn_of_mem_pieces hpiece
            obtain ⟨hsymbol, hpart⟩ := mem_splitOn hsplit
            exact ih hread (htighter (fun c hc => mem_of_mem_trim (hpart c hc)) hsymbol)
          · rw [read_pass hmem] at h
            have hsymbol : operator.symbol ∉ text := fun hin =>
              hmem ((mem_trim_iff operator.isBlank_symbol).mpr hin)
            exact (ih h (htighter (fun c hc => hc) hsymbol)).append_left [operator]

/-- **The characters of an expression** are letters, digits, blanks and symbols of its
levels. -/
theorem mem_text_of_fits {c : Char} (h : Fits levels e) (hc : c ∈ e.text) :
    isAlphanumeric c = true ∨ c = ' ' ∨ ∃ operator ∈ levels, c = operator.symbol := by
  induction h with
  | const hn =>
      rw [Expr.text] at hc
      rcases mem_signedText hc with hc | ⟨hneg, rfl⟩
      · exact Or.inl hc
      · exact Or.inr (Or.inr ⟨.minus, hn hneg, rfl⟩)
  | ref hname =>
      rw [Expr.text] at hc
      exact Or.inl (hname.alphanumeric c hc)
  | empty =>
      rw [Expr.text] at hc
      exact absurd hc List.not_mem_nil
  | op hlevels hne hoperands ih =>
      rcases Expr.mem_text_op hc with ⟨e, he, hc⟩ | rfl | rfl
      · refine (ih e he hc).imp_right (Or.imp_right ?_)
        rintro ⟨operator, hmem, rfl⟩
        exact ⟨operator, by simp [hlevels, hmem], rfl⟩
      · exact Or.inr (Or.inl rfl)
      · exact Or.inr (Or.inr ⟨_, by simp [hlevels], rfl⟩)

/-- Symbols of other levels do not occur. -/
lemma symbol_notMem_text (h : Fits levels e) (hother : operator ∉ levels) :
    operator.symbol ∉ e.text := by
  intro hmem
  rcases mem_text_of_fits h hmem with halpha | hblank | ⟨other, hlevel, hsymbol⟩
  · rw [operator.isAlphanumeric_symbol] at halpha
    cases halpha
  · have hsymbol := operator.isBlank_symbol
    rw [hblank] at hsymbol
    cases hsymbol
  · exact hother (Operator.symbol_injective hsymbol ▸ hlevel)

end Spreadsheet.Formula
