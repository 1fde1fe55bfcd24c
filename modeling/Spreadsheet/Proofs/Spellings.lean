import Mathlib.Tactic
import Spreadsheet.Proofs.Text.Lines

/-!
The spellings of cells.

The row of a cell can be written with zeros before its digits, so that a cell has many spellings.
Its name is the shortest of them, and what all of them come to without these zeros.

* `naturalText_digitsValue`: digits without leading zeros are what is written for their value;
* `nameText_injective`: no two cells share a name, whether or not their columns have letters;
* `ofText?_eq_some_iff`: which texts spell a cell, and which one;
* `nameText_of_ofText?`: the cell's name is such a text without leading zeros;
* `name_exact` puts these together.
-/

namespace Spreadsheet

/-! ### Digits -/

namespace Text

variable {c : Char} {digits : List Char} {value : Nat}

lemma isDigit_iff : c.isDigit = true ↔ '0' ≤ c ∧ c ≤ '9' := by
  simp [Char.isDigit, Char.le_def]

lemma digit_lt (h : c.isDigit = true) : c.toNat - '0'.toNat < 10 := by
  have hlast : c.toNat ≤ '0'.toNat + 9 := (isDigit_iff.mp h).2
  omega

/-- A digit is what is written for its value. -/
lemma naturalText_digit (h : c.isDigit = true) : naturalText (c.toNat - '0'.toNat) = [c] := by
  have hall : ∀ n < 10, n.digitChar = Char.ofNat ('0'.toNat + n) := by decide
  have hfirst : '0'.toNat ≤ c.toNat := (isDigit_iff.mp h).1
  rw [naturalText, Nat.toDigits_of_lt_base (digit_lt h), hall _ (digit_lt h),
    Nat.add_sub_cancel' hfirst, Char.ofNat_toNat]

/-- Digits that follow a positive number are written after what is written for it. -/
lemma naturalText_ofDigitChars (hdigits : ∀ c ∈ digits, c.isDigit = true) (hvalue : 0 < value) :
    naturalText (Nat.ofDigitChars 10 digits value) = naturalText value ++ digits := by
  induction digits generalizing value with
  | nil => rw [Nat.ofDigitChars_nil, List.append_nil]
  | cons digit digits ih =>
      have hdigit := hdigits digit List.mem_cons_self
      have hlonger : naturalText (10 * value + (digit.toNat - '0'.toNat)) =
          naturalText value ++ [digit] := by
        rw [← naturalText_digit hdigit]
        exact (Nat.toDigits_append_toDigits (by decide) hvalue (digit_lt hdigit)).symm
      rw [Nat.ofDigitChars_cons, ih (fun c hc => hdigits c (List.mem_cons_of_mem _ hc)) (by omega),
        hlonger, List.append_assoc, List.singleton_append]

/-- The digits without leading zeros; of zeros alone the last stays. -/
def dropZeros : List Char → List Char
  | '0' :: digit :: digits => dropZeros (digit :: digits)
  | digits => digits

/-- **Digits without leading zeros** are what is written for their value. -/
theorem naturalText_digitsValue (hne : digits ≠ []) (hdigits : ∀ c ∈ digits, c.isDigit = true) :
    naturalText (digitsValue digits) = dropZeros digits := by
  fun_induction dropZeros digits with
  | case1 digit digits ih =>
      exact ih (List.cons_ne_nil _ _) fun c hc => hdigits c (List.mem_cons_of_mem _ hc)
  | case2 digits hzero =>
      obtain ⟨digit, rest, rfl⟩ := List.exists_cons_of_ne_nil hne
      have hdigit := hdigits digit List.mem_cons_self
      rw [digitsValue, Nat.ofDigitChars_cons, Nat.mul_zero, Nat.zero_add]
      cases rest with
      | nil => exact naturalText_digit hdigit
      | cons next rest =>
          -- the first digit is no zero, since a zero before other digits would have been dropped
          have hpos : 0 < digit.toNat - '0'.toNat := by
            have hfirst : '0'.toNat ≤ digit.toNat := (isDigit_iff.mp hdigit).1
            have hne : digit.toNat ≠ '0'.toNat := fun heq => by
              obtain rfl := Char.toNat_inj.mp heq
              exact hzero next rest rfl
            omega
          rw [naturalText_ofDigitChars (fun c hc => hdigits c (List.mem_cons_of_mem _ hc)) hpos,
            naturalText_digit hdigit]
          rfl

end Text

namespace Location

open Text

variable {a b cell : Location} {letter : Char} {column : Nat} {text : List Char}

/-! ### Letters -/

lemma letterOf?_eq_none_iff : letterOf? column = none ↔ maxColumns ≤ column := by
  simp [letterOf?]

lemma columnOf?_eq_some_iff : columnOf? letter = some column ↔
    ('A' ≤ letter ∧ letter ≤ 'Z') ∧ column = letter.toNat - 'A'.toNat := by
  have hupper : letter.isUpper = true ↔ 'A' ≤ letter ∧ letter ≤ 'Z' := decide_eq_true_iff
  rw [columnOf?, Option.ite_none_right_eq_some, hupper, Option.some.injEq, eq_comm (a := column)]

/-- A letter is that of the column which it stands for. -/
lemma letterOf?_of_columnOf? (h : columnOf? letter = some column) :
    letterOf? column = some letter := by
  obtain ⟨⟨hfirst, hlast⟩, rfl⟩ := columnOf?_eq_some_iff.mp h
  have hlow : 'A'.toNat ≤ letter.toNat := hfirst
  have hhigh : letter.toNat ≤ 'A'.toNat + 25 := hlast
  rw [letterOf?, maxColumns, if_pos (by omega), Nat.add_sub_cancel' hlow, Char.ofNat_toNat]

lemma columnOf?_of_letterOf? (h : letterOf? column = some letter) :
    columnOf? letter = some column := by
  rw [letterOf?, Option.ite_none_right_eq_some] at h
  obtain ⟨hcolumn, hletter⟩ := h
  rw [← Option.some.inj hletter, columnOf?_letter hcolumn]

/-! ### Names -/

lemma nameText_of_some (h : cell.letter? = some letter) :
    cell.nameText = letter :: naturalText cell.row := by
  rw [nameText, h]

lemma nameText_of_none (h : cell.letter? = none) :
    cell.nameText = '#' :: naturalText cell.column ++ ':' :: naturalText cell.row := by
  rw [nameText, h]

/-- What is written for a number tells which number it is. -/
lemma naturalText_injective {m n : Nat} (h : naturalText m = naturalText n) : m = n := by
  rw [← digitsValue_naturalText m, h, digitsValue_naturalText]

/-- A column's letter is no `#`, which stands before a column without a letter. -/
lemma ne_of_letterOf? (h : letterOf? column = some letter) : letter ≠ '#' := by
  rintro rfl
  exact absurd (columnOf?_of_letterOf? h) (by simp [columnOf?])

/-- **No two cells share a name.** -/
theorem nameText_injective (h : a.nameText = b.nameText) : a = b := by
  have hcell : a.row = b.row → a.column = b.column → a = b := congrArg₂ Location.mk
  cases ha : a.letter? with
  | some letter =>
      rw [nameText_of_some ha] at h
      cases hb : b.letter? with
      | some letter' =>
          rw [nameText_of_some hb, List.cons.injEq] at h
          obtain ⟨rfl, hrow⟩ := h
          have hcolumn := (columnOf?_of_letterOf? ha).symm.trans (columnOf?_of_letterOf? hb)
          exact hcell (naturalText_injective hrow) (Option.some.inj hcolumn)
      | none =>
          rw [nameText_of_none hb, List.cons_append, List.cons.injEq] at h
          exact absurd h.1 (ne_of_letterOf? ha)
  | none =>
      rw [nameText_of_none ha] at h
      cases hb : b.letter? with
      | some letter =>
          rw [nameText_of_some hb, List.cons_append, List.cons.injEq] at h
          exact absurd h.1.symm (ne_of_letterOf? hb)
      | none =>
          -- the numbers hold no colon, so that the text is cut at the one between them
          have hcolon : ∀ n, ':' ∉ '#' :: naturalText n := by
            intro n hmem
            rcases List.mem_cons.mp hmem with heq | hmem
            · exact absurd heq (by decide)
            · exact absurd (isDigit_of_mem_naturalText hmem) (by decide)
          have hcut := congrArg (cutAt ':') (h.trans (nameText_of_none hb))
          rw [cutAt_append (hcolon _), cutAt_append (hcolon _), Option.some.injEq,
            Prod.mk.injEq, List.cons.injEq] at hcut
          exact hcell (naturalText_injective hcut.2) (naturalText_injective hcut.1.2)

/-! ### Spellings -/

/-- **Spellings of cells**: a letter, then digits whose value is a word of 64 bits. -/
theorem ofText?_eq_some_iff : ofText? text = some cell ↔ ∃ letter digits,
    text = letter :: digits ∧ ('A' ≤ letter ∧ letter ≤ 'Z') ∧ digits ≠ [] ∧
      (∀ c ∈ digits, c.isDigit = true) ∧ digitsValue digits < wordLimit ∧
      cell = ⟨digitsValue digits, letter.toNat - 'A'.toNat⟩ := by
  cases text with
  | nil => simp [ofText?]
  | cons letter digits =>
      rw [ofText?, Option.bind_eq_bind, Option.bind_eq_some_iff]
      simp only [magnitude?_eq_some_iff (show 0 < wordLimit by decide), ofLetter?,
        Option.map_eq_some_iff, columnOf?_eq_some_iff]
      constructor
      · rintro ⟨_, ⟨hne, hdigits, hrow, rfl⟩, _, ⟨hletter, rfl⟩, rfl⟩
        exact ⟨letter, digits, rfl, hletter, hne, hdigits, hrow, rfl⟩
      · rintro ⟨_, _, heq, hletter, hne, hdigits, hrow, rfl⟩
        obtain ⟨rfl, rfl⟩ := List.cons.inj heq
        exact ⟨_, ⟨hne, hdigits, hrow, rfl⟩, _, ⟨hletter, rfl⟩, rfl⟩

/-- A spelling without the leading zeros of its row. -/
def shortest : List Char → List Char
  | [] => []
  | letter :: digits => letter :: dropZeros digits

/-- **Names are the shortest spellings.** -/
theorem nameText_of_ofText? (h : ofText? text = some cell) : cell.nameText = shortest text := by
  obtain ⟨letter, digits, rfl, hletter, hne, hdigits, -, rfl⟩ := ofText?_eq_some_iff.mp h
  have hcolumn : letter? ⟨digitsValue digits, letter.toNat - 'A'.toNat⟩ = some letter :=
    letterOf?_of_columnOf? (columnOf?_eq_some_iff.mpr ⟨hletter, rfl⟩)
  rw [nameText_of_some hcolumn, naturalText_digitsValue hne hdigits, shortest]

/-- A cell whose column has no letter has a name that spells no cell. -/
lemma ofText?_nameText_of_none (h : cell.letter? = none) : ofText? cell.nameText = none := by
  rw [Option.eq_none_iff_forall_ne_some]
  intro other hother
  obtain ⟨letter, digits, heq, ⟨hfirst, -⟩, -⟩ := ofText?_eq_some_iff.mp hother
  rw [nameText_of_none h, List.cons_append, List.cons.injEq] at heq
  exact absurd (heq.1 ▸ hfirst) (by decide)

/-- **Names of cells.** No two cells share a name. The name of a cell is read back if the cell's
column has a letter, and is not read otherwise. A text spells a cell if it is one of the letters
from `A` to `Z` and then one digit or more, whose value is a word of 64 bits; the cell lies in that
letter's column and in the row of that value, and its name is the text without leading zeros in the
row. So two texts spell the same cell exactly if they are the same without these zeros. -/
theorem name_exact :
    (∀ a b : Location, a.name = b.name → a = b) ∧
    (∀ cell : Location, cell.row < 2 ^ 64 → cell.column < 2 ^ 64 →
      ofName? cell.name = if cell.column < 26 then some cell else none) ∧
    (∀ name cell, ofName? name = some cell ↔ ∃ letter digits,
      name.toList = letter :: digits ∧ ('A' ≤ letter ∧ letter ≤ 'Z') ∧ digits ≠ [] ∧
        (∀ c ∈ digits, '0' ≤ c ∧ c ≤ '9') ∧ digitsValue digits < 2 ^ 64 ∧
        cell = ⟨digitsValue digits, letter.toNat - 'A'.toNat⟩) ∧
    (∀ name cell, ofName? name = some cell → cell.name = String.ofList (shortest name.toList)) ∧
    ∀ name other a b, ofName? name = some a → ofName? other = some b →
      (a = b ↔ shortest name.toList = shortest other.toList) := by
  refine ⟨fun a b h => nameText_injective ?_, fun cell hrow _ => ?_, fun name cell => ?_,
    fun name cell h => ?_, fun name other a b ha hb => ?_⟩
  · have hlist := congrArg String.toList h
    rwa [name, name, String.toList_ofList, String.toList_ofList] at hlist
  · split_ifs with hcolumn
    · exact ofName?_name hrow hcolumn
    · rw [ofName?, name, String.toList_ofList]
      exact ofText?_nameText_of_none (letterOf?_eq_none_iff.mpr (Nat.le_of_not_lt hcolumn))
  · simp only [← isDigit_iff]
    exact ofText?_eq_some_iff
  · rw [Location.name, nameText_of_ofText? h]
  · rw [← nameText_of_ofText? ha, ← nameText_of_ofText? hb]
    exact ⟨congrArg nameText, nameText_injective⟩

/-- Two spellings of one cell, and the name that it has. -/
theorem name_exact_zeros : (7 : Nat) < 2 ^ 64 ∧ (1 : Nat) < 2 ^ 64 ∧
    ofName? "B007" = some ⟨7, 1⟩ ∧ ofName? "B07" = some ⟨7, 1⟩ ∧
    ofName? (Location.name ⟨7, 1⟩) = some ⟨7, 1⟩ ∧
    Location.name ⟨7, 1⟩ = String.ofList (shortest "B007".toList) ∧
    shortest "B007".toList = shortest "B07".toList := by
  obtain ⟨-, hread, -, hname, hsame⟩ := name_exact
  have hlong : ofName? "B007" = some ⟨7, 1⟩ := by decide
  have hshort : ofName? "B07" = some ⟨7, 1⟩ := by decide
  exact ⟨by decide, by decide, hlong, hshort, hread ⟨7, 1⟩ (by decide) (by decide),
    hname _ _ hlong, (hsame _ _ _ _ hlong hshort).mp rfl⟩

end Location

end Spreadsheet
