import Mathlib.Tactic
import Spreadsheet.Proofs.Formula.Rendering
import Spreadsheet.Proofs.Text.Stretches

/-!
Which texts are formulas.

Reading cuts a text level by level, trims every piece and drops those that are empty at the end.
All this comes down to three conditions on the text as a whole (`Grammatical`): its characters,
the blanks between letters and digits, and symbols that stand alone.

* `readable_cons_iff` and `grammatical_cons_iff`: reading and the conditions go from one level to
  the next in the same way;
* `readable_iff_grammatical`: so what can be read is what meets the conditions;
* `reason_of_read`: what is to blame for a text that cannot be read;
* `parse_grammatical` puts the two together for whole formulas.
-/

namespace Spreadsheet.Formula

open Text

section Levels

variable {operator : Operator} {levels tighter : List Operator} {symbol : Char} {text : List Char}

/-- Nothing but copies of the symbol is left after trimming. -/
def Lone (symbol : Char) (text : List Char) : Prop :=
  trim text ≠ [] ∧ ∀ c ∈ trim text, c = symbol

/-- The symbols of the levels before that of the operator. -/
def looserSymbols (levels : List Operator) (operator : Operator) : List Char :=
  (levels.takeWhile (· ≠ operator)).map Operator.symbol

/-- The conditions on a text with operators of the given levels. -/
structure Grammatical (levels : List Operator) (text : List Char) : Prop where
  /-- There are blanks, letters and digits, and symbols of the levels. -/
  characters : ∀ c ∈ text, isBlank c = true ∨ isAlphanumeric c = true ∨
    ∃ operator ∈ levels, c = operator.symbol
  /-- There is something else than blanks between letters or digits that are apart. -/
  unbroken : Unbroken text
  /-- No symbol stands alone, or with copies of itself, between looser ones. -/
  operands : ∀ operator ∈ levels, ∀ part, Stretch (looserSymbols levels operator) text part →
    ¬ Lone operator.symbol part

/-- The text can be read at the given levels. -/
def Readable (levels : List Operator) (text : List Char) : Prop :=
  ∃ e, read levels text = .ok e

/-! ### Symbols that stand alone -/

lemma Lone.mem (h : Lone symbol text) : symbol ∈ text := by
  obtain ⟨c, hc⟩ := List.exists_mem_of_ne_nil _ h.1
  exact h.2 c hc ▸ mem_of_mem_trim hc

/-! ### Reading at one level -/

lemma pieces_eq_nil_iff : pieces symbol text = [] ↔ ∀ c ∈ text, c = symbol := by
  rw [pieces, List.reverse_eq_nil_iff, List.dropWhile_eq_nil_iff]
  simp only [List.mem_reverse, List.isEmpty_iff]
  constructor
  · intro h c hc
    by_contra hne
    obtain ⟨piece, hpiece, hmem⟩ := exists_mem_splitOn hc hne
    rw [h piece hpiece] at hmem
    exact absurd hmem List.not_mem_nil
  · intro h piece hpiece
    obtain ⟨hsymbol, hpart⟩ := mem_splitOn hpiece
    refine List.eq_nil_iff_forall_not_mem.mpr fun c hc => hsymbol ?_
    exact h c (hpart c hc) ▸ hc

/-- Pieces that are dropped are empty. -/
lemma mem_pieces_of_mem_splitOn {piece : List Char} (h : piece ∈ text.splitOn symbol)
    (hne : piece ≠ []) : piece ∈ pieces symbol text := by
  have hsplit := List.takeWhile_append_dropWhile (p := List.isEmpty)
    (l := (text.splitOn symbol).reverse)
  rw [pieces, List.mem_reverse]
  rw [← List.mem_reverse, ← hsplit, List.mem_append] at h
  refine h.resolve_left fun hempty => hne ?_
  exact List.isEmpty_iff.mp (List.mem_takeWhile_imp hempty)

lemma readable_trim : Readable levels (trim text) ↔ Readable levels text := by
  rw [Readable, read_trim, Readable]

/-- A text that is a single word, or blank, can be read at all levels. -/
lemma readable_of_alphanumeric (h : ∀ c ∈ trim text, isAlphanumeric c = true) :
    Readable levels text := by
  have hskip : read (levels ++ []) (trim text) = read [] (trim text) := by
    refine read_skip fun operator _ hmem => ?_
    have halphanumeric := h _ hmem
    rw [operator.isAlphanumeric_symbol] at halphanumeric
    cases halphanumeric
  rw [List.append_nil] at hskip
  rw [← readable_trim, Readable, hskip, read, trim_trim, atom]
  cases readSigned? (trim text) with
  | some value => exact ⟨_, rfl⟩
  | none =>
      have hfind : (trim text).find? (fun c => !isAlphanumeric c) = none := by simpa using h
      rw [hfind]
      exact ⟨_, rfl⟩

/-- A sign alone is no number. -/
lemma readSigned?_symbol (operator : Operator) : readSigned? [operator.symbol] = none := by
  cases operator <;> rfl

/-- A number with a sign can be read as well if it is cut at the sign. -/
lemma readable_of_number {value : Int64} (hmem : operator.symbol ∈ text)
    (hnumber : readSigned? (trim text) = some value) :
    ¬ Lone operator.symbol text ∧ ∀ piece ∈ text.splitOn operator.symbol,
      Readable tighter piece := by
  obtain ⟨sign, digits, heq, hdigits, hsign⟩ := readSigned?_eq_some hnumber
  have hword : ∀ c ∈ digits, isAlphanumeric c = true := fun c hc =>
    isAlphanumeric_of_isDigit (hdigits c hc)
  have hother : operator.symbol ∉ digits := by
    intro hdigit
    have halphanumeric := hword _ hdigit
    rw [operator.isAlphanumeric_symbol] at halphanumeric
    cases halphanumeric
  -- digits hold no symbol, so the symbol can only be the sign
  have hsymbol : operator.symbol ∈ sign := by
    rw [← mem_trim_iff operator.isBlank_symbol, heq] at hmem
    exact (List.mem_append.mp hmem).resolve_right hother
  have hsingle : sign = [operator.symbol] := by
    rcases hsign with rfl | ⟨rfl | rfl, -⟩
    · rw [List.mem_singleton.mp hsymbol]
    · rw [List.mem_singleton.mp hsymbol]
    · exact absurd hsymbol List.not_mem_nil
  rw [hsingle, List.singleton_append] at heq
  constructor
  · rintro ⟨-, hall⟩
    have hnil : digits = [] := List.eq_nil_iff_forall_not_mem.mpr fun c hc =>
      hother (hall c (by simp [heq, hc]) ▸ hc)
    rw [heq, hnil, readSigned?_symbol] at hnumber
    cases hnumber
  · intro piece hpiece
    have htrim : trim piece ∈ (text.splitOn operator.symbol).map trim := List.mem_map_of_mem hpiece
    rw [← map_trim_splitOn_trim operator.isBlank_symbol, heq,
      ← List.nil_append (operator.symbol :: digits),
      List.splitOn_append_cons_self_of_not_mem List.not_mem_nil,
      List.splitOn_eq_singleton hother, List.map_cons, List.map_singleton] at htrim
    refine readable_of_alphanumeric fun c hc => ?_
    rcases List.mem_cons.mp htrim with hnil | hlast
    · rw [hnil, trim_nil] at hc
      exact absurd hc List.not_mem_nil
    · rw [List.mem_singleton.mp hlast] at hc
      exact hword c (mem_of_mem_trim hc)

/-- A text can be read after it is cut if the symbol does not stand alone and all pieces can be
read, be they dropped or not. -/
lemma readable_cut_iff (hmem : operator.symbol ∈ text) (hnumber : readSigned? (trim text) = none) :
    Readable (operator :: tighter) text ↔
      ¬ Lone operator.symbol text ∧ ∀ piece ∈ text.splitOn operator.symbol,
        Readable tighter piece := by
  have hblank := operator.isBlank_symbol
  have hparts : ∀ parts : List (List Char), (∀ part ∈ parts, Readable tighter part) ↔
      ∀ part ∈ parts.map trim, Readable tighter part := fun parts => by
    simp [readable_trim]
  have hempty : Readable tighter [] := readable_of_alphanumeric (by simp [trim_nil])
  rw [hparts, ← map_trim_splitOn_trim hblank, ← hparts, Readable,
    read_cut hnumber ((mem_trim_iff hblank).mpr hmem)]
  constructor
  · rintro ⟨e, he⟩
    obtain ⟨es, hes, happly⟩ := bind_eq_ok_iff.mp he
    refine ⟨fun hlone => (application_eq_ok happly).1 ?_, fun piece hpiece => ?_⟩
    · rw [pieces_eq_nil_iff.mpr hlone.2] at hes
      exact (Except.ok.inj hes).symm
    · by_cases hne : piece = []
      · exact hne ▸ hempty
      · exact exists_mapM_eq_ok_iff.mp ⟨es, hes⟩ piece (mem_pieces_of_mem_splitOn hpiece hne)
  · rintro ⟨hlone, hpieces⟩
    obtain ⟨es, hes⟩ := exists_mapM_eq_ok_iff.mpr fun piece hpiece =>
      hpieces piece (mem_splitOn_of_mem_pieces hpiece)
    have hne : es ≠ [] := by
      rintro rfl
      have hlength := length_of_mapM hes
      rw [List.length_nil, eq_comm, List.length_eq_zero_iff, pieces_eq_nil_iff] at hlength
      exact hlone ⟨List.ne_nil_of_mem ((mem_trim_iff hblank).mpr hmem), hlength⟩
    exact ⟨_, bind_eq_ok_iff.mpr ⟨es, hes, application_of_ne_nil hne⟩⟩

/-- **Reading at one level.** A text can be read if the symbol of the loosest level does not stand
alone and the pieces between its copies can be read at the other levels. -/
theorem readable_cons_iff : Readable (operator :: tighter) text ↔
    ¬ Lone operator.symbol text ∧ ∀ piece ∈ text.splitOn operator.symbol,
      Readable tighter piece := by
  by_cases hmem : operator.symbol ∈ text
  · cases hnumber : readSigned? (trim text) with
    | some value => exact iff_of_true ⟨_, read_of_number hnumber⟩ (readable_of_number hmem hnumber)
    | none => exact readable_cut_iff hmem hnumber
  · have htrim : operator.symbol ∉ trim text := fun h => hmem (mem_of_mem_trim h)
    rw [List.splitOn_eq_singleton hmem, Readable, read_pass htrim]
    simp only [List.mem_singleton, forall_eq]
    exact (and_iff_right fun hlone => hmem hlone.mem).symm

/-! ### The conditions at one level -/

lemma looserSymbols_cons_self : looserSymbols (operator :: tighter) operator = [] := by
  rw [looserSymbols, List.takeWhile_cons_of_neg (by simp), List.map_nil]

lemma looserSymbols_cons {other : Operator} (hne : operator ≠ other) :
    looserSymbols (operator :: tighter) other = operator.symbol :: looserSymbols tighter other := by
  rw [looserSymbols, List.takeWhile_cons_of_pos (by simpa using hne), List.map_cons, looserSymbols]

/-- **The conditions at one level.** They go over to the pieces in the same way: a text meets them
if the symbol of the loosest level does not stand alone and the pieces between its copies meet
them at the other levels. -/
theorem grammatical_cons_iff (hnodup : (operator :: tighter).Nodup) :
    Grammatical (operator :: tighter) text ↔
      ¬ Lone operator.symbol text ∧ ∀ piece ∈ text.splitOn operator.symbol,
        Grammatical tighter piece := by
  have hne : ∀ other ∈ tighter, operator ≠ other := by
    rintro other hother rfl
    exact (List.nodup_cons.mp hnodup).1 hother
  have hblank := operator.isBlank_symbol
  have halphanumeric := operator.isAlphanumeric_symbol
  constructor
  · intro h
    refine ⟨h.operands operator List.mem_cons_self text ?_, fun piece hpiece => ⟨?_, ?_, ?_⟩⟩
    -- no symbol is looser, so the only stretch to look at is the whole text
    · rw [looserSymbols_cons_self, stretch_nil_iff]
    · intro c hc
      obtain ⟨hsymbol, hpart⟩ := mem_splitOn hpiece
      refine (h.characters c (hpart c hc)).imp_right (Or.imp_right ?_)
      rintro ⟨other, hother, rfl⟩
      refine ⟨other, (List.mem_cons.mp hother).resolve_left ?_, rfl⟩
      rintro rfl
      exact hsymbol hc
    · exact (unbroken_iff_splitOn hblank halphanumeric).mp h.unbroken piece hpiece
    · intro other hother part hpart
      refine h.operands other (List.mem_cons_of_mem _ hother) part ?_
      rw [looserSymbols_cons (hne other hother), stretch_cons_iff]
      exact ⟨piece, hpiece, hpart⟩
  · rintro ⟨hlone, hpieces⟩
    refine ⟨fun c hc => ?_, ?_, fun other hother part hpart => ?_⟩
    · by_cases hsymbol : c = operator.symbol
      · exact Or.inr (Or.inr ⟨operator, List.mem_cons_self, hsymbol⟩)
      · obtain ⟨piece, hpiece, hmem⟩ := exists_mem_splitOn hc hsymbol
        refine ((hpieces piece hpiece).characters c hmem).imp_right (Or.imp_right ?_)
        exact fun ⟨other, hother, heq⟩ => ⟨other, List.mem_cons_of_mem _ hother, heq⟩
    · exact (unbroken_iff_splitOn hblank halphanumeric).mpr fun piece hpiece =>
        (hpieces piece hpiece).unbroken
    · rcases List.mem_cons.mp hother with rfl | hother
      · rw [looserSymbols_cons_self, stretch_nil_iff] at hpart
        exact hpart ▸ hlone
      · rw [looserSymbols_cons (hne other hother), stretch_cons_iff] at hpart
        obtain ⟨piece, hpiece, hpart⟩ := hpart
        exact (hpieces piece hpiece).operands other hother part hpart

/-! ### Without levels -/

/-- Without symbols it is the single words, and the blanks, that can be read. -/
lemma readable_nil_iff (hclean : ∀ operator : Operator, operator.symbol ∉ text) :
    Readable [] text ↔ ∀ c ∈ trim text, isAlphanumeric c = true := by
  refine ⟨?_, readable_of_alphanumeric⟩
  rintro ⟨e, he⟩
  rw [read, atom] at he
  cases hnumber : readSigned? (trim text) with
  | some value =>
      obtain ⟨sign, digits, heq, hdigits, hsign⟩ := readSigned?_eq_some hnumber
      have hbare : sign = [] := by
        rcases hsign with rfl | ⟨rfl | rfl, -⟩
        · exact absurd (mem_of_mem_trim (by simp [heq, Operator.symbol])) (hclean .minus)
        · exact absurd (mem_of_mem_trim (by simp [heq, Operator.symbol])) (hclean .plus)
        · rfl
      rw [heq, hbare, List.nil_append]
      exact fun c hc => isAlphanumeric_of_isDigit (hdigits c hc)
  | none =>
      rw [hnumber] at he
      simp only at he
      split at he
      · cases he
      · next hfind => simpa using hfind

lemma grammatical_nil_iff :
    Grammatical [] text ↔ ∀ c ∈ trim text, isAlphanumeric c = true := by
  rw [alphanumeric_trim_iff]
  constructor
  · intro h
    exact ⟨fun c hc => (h.characters c hc).imp_right fun h => h.resolve_right (by simp),
      h.unbroken⟩
  · rintro ⟨hchars, hunbroken⟩
    exact ⟨fun c hc => (hchars c hc).imp_right Or.inl, hunbroken, by simp⟩

/-! ### All levels -/

/-- **What can be read** is what meets the conditions, in a text without symbols of other
levels. -/
theorem readable_iff_grammatical (hnodup : levels.Nodup)
    (hclean : ∀ operator ∉ levels, operator.symbol ∉ text) :
    Readable levels text ↔ Grammatical levels text := by
  induction levels generalizing text with
  | nil =>
      rw [readable_nil_iff fun operator => hclean operator List.not_mem_nil, grammatical_nil_iff]
  | cons operator tighter ih =>
      rw [readable_cons_iff, grammatical_cons_iff hnodup]
      refine and_congr_right fun _ => forall₂_congr fun piece hpiece => ?_
      obtain ⟨hsymbol, hpart⟩ := mem_splitOn hpiece
      refine ih (List.nodup_cons.mp hnodup).2 fun other hother hmem => ?_
      by_cases hsame : other = operator
      · exact hsymbol (hsame ▸ hmem)
      · exact hclean other (by simp [hsame, hother]) (hpart _ hmem)

/-- What is to blame for a text that cannot be read: an operator without operands, or one of its
characters. -/
lemma reason_of_read {reason : Reason} (h : read levels text = .error reason) :
    reason = .noOperands ∨ ∃ c ∈ text, isAlphanumeric c = false ∧ reason = .unexpected c := by
  induction levels generalizing text with
  | nil =>
      rw [read, atom] at h
      split at h
      · cases h
      · split at h
        · next c hfind =>
            refine Or.inr ⟨c, mem_of_mem_trim (List.mem_of_find?_eq_some hfind), ?_, ?_⟩
            · simpa using List.find?_some hfind
            · exact (Except.error.inj h).symm
        · cases h
  | cons operator tighter ih =>
      cases hnumber : readSigned? (trim text) with
      | some value =>
          rw [read_of_number hnumber] at h
          cases h
      | none =>
          by_cases hmem : operator.symbol ∈ trim text
          · rw [read_cut hnumber hmem] at h
            rcases bind_eq_error_iff.mp h with hes | ⟨es, -, happly⟩
            · obtain ⟨piece, hpiece, hread⟩ := exists_of_mapM_eq_error hes
              refine (ih hread).imp_right ?_
              rintro ⟨c, hc, hrest⟩
              have hmem := (mem_splitOn (mem_splitOn_of_mem_pieces hpiece)).2 c hc
              exact ⟨c, mem_of_mem_trim hmem, hrest⟩
            · cases es with
              | nil => exact Or.inl (Except.error.inj happly).symm
              | cons first rest => cases happly
          · rw [read_pass hmem] at h
            exact ih h

end Levels

/-! ### Whole formulas -/

lemma mem_levels (operator : Operator) : operator ∈ levels := by
  cases operator <;> decide

/-- A text can be parsed exactly if it meets the conditions. -/
lemma exists_parse_iff {text : String} :
    (∃ e, parse text = .ok e) ↔ Grammatical levels text.toList := by
  have hclean : ∀ operator ∉ levels, operator.symbol ∉ text.toList := fun operator hother =>
    absurd (mem_levels operator) hother
  rw [← readable_iff_grammatical levels_nodup hclean, Readable, parse]
  cases read levels text.toList <;> simp

/-- **The texts that are formulas.** A text can be parsed exactly if it meets the conditions; if
it does not, then the fault holds the whole text, and the reason is that there are no operands or
one of the characters. -/
theorem parse_grammatical (text : String) :
    ((∃ e, parse text = .ok e) ↔ Grammatical levels text.toList) ∧
      ∀ fault, parse text = .error fault → fault.text = text ∧
        (fault.reason.message = "No arguments provided" ∨
          ∃ c ∈ text.toList, isAlphanumeric c = false ∧
            fault.reason.message = s!"Unexpected character '{c}'") := by
  refine ⟨exists_parse_iff, fun fault h => ?_⟩
  rw [parse] at h
  split at h
  · cases h
  · next reason hread =>
      obtain rfl := Except.error.inj h
      refine ⟨rfl, (reason_of_read hread).imp (fun hreason => ?_) ?_⟩
      · simp only [hreason]
        rfl
      · rintro ⟨c, hc, hother, rfl⟩
        exact ⟨c, hc, hother, rfl⟩

end Spreadsheet.Formula
