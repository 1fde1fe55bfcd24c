import Mathlib.Tactic
import Spreadsheet.Operator
import Spreadsheet.Proofs.Names
import Spreadsheet.Text.Alphanumeric
import Spreadsheet.Text.Blank

/-!
The characters that formulas are written with.

* `isBlank_of_isAlphanumeric`, `isAlphanumeric_symbol`, `isBlank_symbol`: letters and digits,
  blanks, and the symbols of operators are three kinds of characters;
* `readSigned?_signedText`: a signed number is read back from what is written for it;
* `readSigned?_eq_some`: what can be read as a signed number is digits, perhaps after a sign.
  So it has no blanks in it, and a number below zero has a minus sign.
-/

namespace Spreadsheet

namespace Text

/-! ### Kinds of characters -/

/-- No range of letters and digits overlaps one of blanks. -/
lemma ranges_disjoint : ∀ r ∈ alphanumericRanges, ∀ b ∈ blankRanges, r.2 < b.1 ∨ b.2 < r.1 := by
  have hall : (alphanumericRanges.all fun r => blankRanges.all fun b =>
      r.2.blt b.1 || b.2.blt r.1) = true := by
    decide +kernel
  simpa [Nat.blt_eq] using hall

/-- Letters and digits are not blank. -/
lemma isBlank_of_isAlphanumeric {c : Char} (h : isAlphanumeric c = true) : isBlank c = false := by
  rw [← Bool.not_eq_true]
  intro hblank
  obtain ⟨r, hr, hfirst, hlast⟩ := mem_of_inRanges h
  obtain ⟨b, hb, hfirst', hlast'⟩ := mem_of_inRanges hblank
  rcases ranges_disjoint r hr b hb with hlt | hlt <;> omega

lemma isAlphanumeric_of_isDigit {c : Char} (h : c.isDigit = true) : isAlphanumeric c = true := by
  obtain ⟨hfirst, hlast⟩ : 48 ≤ c.toNat ∧ c.toNat ≤ 57 := by
    simpa [Char.isDigit, UInt32.le_iff_toNat_le] using h
  change inRanges c.toNat ((0x0030, 0x0039) :: _) = true
  rw [inRanges, if_neg (by omega), if_pos (by omega)]

/-! ### Numbers -/

lemma readSigned?_minus (digits : List Char) : readSigned? ('-' :: digits) =
    (magnitude? (Nat.pow 2 63 + 1) digits).map fun n : Nat => Int64.ofInt (-n) := by
  rw [readSigned?]
  cases magnitude? (Nat.pow 2 63 + 1) digits <;> rfl

lemma readSigned?_plus (digits : List Char) : readSigned? ('+' :: digits) =
    (magnitude? (Nat.pow 2 63) digits).map Int64.ofNat := by
  rw [readSigned?]

/-- Without a sign the whole text is digits. -/
lemma readSigned?_of_ne {text : List Char} (hminus : ∀ rest, text ≠ '-' :: rest)
    (hplus : ∀ rest, text ≠ '+' :: rest) :
    readSigned? text = (magnitude? (Nat.pow 2 63) text).map Int64.ofNat := by
  rw [readSigned?.eq_def]
  split
  · exact absurd rfl (hminus _)
  · exact absurd rfl (hplus _)
  · rfl

/-- A text that is read as a signed number is one of digits, perhaps after a sign, and only
with a minus sign is it below zero. -/
lemma readSigned?_eq_some {text : List Char} {value : Int64} (h : readSigned? text = some value) :
    ∃ sign digits, text = sign ++ digits ∧ (∀ c ∈ digits, c.isDigit = true) ∧
      ((sign = ['-']) ∨ (sign = ['+'] ∨ sign = []) ∧ ¬ value < 0) := by
  have hnat : ∀ n : Nat, n < Nat.pow 2 63 → ¬ Int64.ofNat n < 0 := by
    intro n hn hneg
    rw [Int64.lt_iff_toInt_lt, Int64.toInt_ofNat_of_lt hn] at hneg
    exact absurd hneg (by simp)
  by_cases hminus : ∃ rest, text = '-' :: rest
  · obtain ⟨digits, rfl⟩ := hminus
    rw [readSigned?_minus] at h
    obtain ⟨n, hn, -⟩ := Option.map_eq_some_iff.mp h
    exact ⟨['-'], digits, rfl, ((magnitude?_eq_some_iff (by decide)).mp hn).2.1, Or.inl rfl⟩
  · by_cases hplus : ∃ rest, text = '+' :: rest
    · obtain ⟨digits, rfl⟩ := hplus
      rw [readSigned?_plus] at h
      obtain ⟨n, hn, rfl⟩ := Option.map_eq_some_iff.mp h
      obtain ⟨-, hdigits, hlt, -⟩ := (magnitude?_eq_some_iff (by decide)).mp hn
      exact ⟨['+'], digits, rfl, hdigits, Or.inr ⟨Or.inl rfl, hnat n hlt⟩⟩
    · rw [readSigned?_of_ne (not_exists.mp hminus) (not_exists.mp hplus)] at h
      obtain ⟨n, hn, rfl⟩ := Option.map_eq_some_iff.mp h
      obtain ⟨-, hdigits, hlt, -⟩ := (magnitude?_eq_some_iff (by decide)).mp hn
      exact ⟨[], text, rfl, hdigits, Or.inr ⟨Or.inr rfl, hnat n hlt⟩⟩

/-- A number has no blanks in it. -/
lemma isBlank_of_readSigned? {text : List Char} {value : Int64}
    (h : readSigned? text = some value) : ∀ c ∈ text, isBlank c = false := by
  obtain ⟨sign, digits, rfl, hdigits, hsign⟩ := readSigned?_eq_some h
  intro c hc
  rcases List.mem_append.mp hc with hc | hc
  · have hsign' : c = '-' ∨ c = '+' := by
      rcases hsign with rfl | ⟨rfl | rfl, -⟩ <;> simp_all
    rcases hsign' with rfl | rfl <;> decide
  · exact isBlank_of_isAlphanumeric (isAlphanumeric_of_isDigit (hdigits c hc))

/-- A number below zero has a minus sign. -/
lemma minus_mem_of_readSigned? {text : List Char} {value : Int64}
    (h : readSigned? text = some value) (hvalue : value < 0) : '-' ∈ text := by
  obtain ⟨sign, digits, rfl, -, rfl | ⟨-, hnot⟩⟩ := readSigned?_eq_some h
  · exact List.mem_cons_self
  · exact absurd hvalue hnot

lemma signedText_of_neg {n : Int64} (h : n < 0) :
    signedText n = '-' :: naturalText n.toInt.natAbs :=
  if_pos (Int64.lt_iff_toInt_lt.mp h)

lemma signedText_of_nonneg {n : Int64} (h : ¬ n < 0) :
    signedText n = naturalText n.toInt.natAbs :=
  if_neg fun hneg => h (Int64.lt_iff_toInt_lt.mpr hneg)

/-- A signed number is read back from what is written for it. -/
theorem readSigned?_signedText (n : Int64) : readSigned? (signedText n) = some n := by
  have hle := n.le_toInt
  have hlt := n.toInt_lt
  by_cases hneg : n < 0
  · have hint : n.toInt < 0 := Int64.lt_iff_toInt_lt.mp hneg
    have hlimit : n.toInt.natAbs < Nat.pow 2 63 + 1 := by
      change _ < 9223372036854775808 + 1
      omega
    have hvalue : -(n.toInt.natAbs : Int) = n.toInt := by omega
    rw [signedText_of_neg hneg, readSigned?_minus, magnitude?_naturalText hlimit, Option.map_some,
      hvalue, Int64.ofInt_toInt]
  · have hint : ¬ n.toInt < 0 := fun h => hneg (Int64.lt_iff_toInt_lt.mpr h)
    have hlimit : n.toInt.natAbs < Nat.pow 2 63 := by
      change _ < 9223372036854775808
      omega
    have hvalue : (n.toInt.natAbs : Int) = n.toInt := by omega
    have hsign : ∀ sign : Char, sign.isDigit = false → ∀ rest, naturalText n.toInt.natAbs ≠
        sign :: rest := by
      intro sign hsign rest heq
      have hdigit := isDigit_of_mem_naturalText (heq ▸ List.mem_cons_self : sign ∈ naturalText _)
      rw [hsign] at hdigit
      cases hdigit
    rw [signedText_of_nonneg hneg,
      readSigned?_of_ne (hsign '-' (by decide)) (hsign '+' (by decide)),
      magnitude?_naturalText hlimit, Option.map_some, ← Int64.ofInt_eq_ofNat, hvalue,
      Int64.ofInt_toInt]

/-- What is written for a number is letters and digits, after a minus sign if it is below zero. -/
lemma mem_signedText {n : Int64} {c : Char} (h : c ∈ signedText n) :
    isAlphanumeric c = true ∨ (n < 0 ∧ c = '-') := by
  by_cases hneg : n < 0
  · rw [signedText_of_neg hneg] at h
    rcases List.mem_cons.mp h with rfl | h
    · exact Or.inr ⟨hneg, rfl⟩
    · exact Or.inl (isAlphanumeric_of_isDigit (isDigit_of_mem_naturalText h))
  · rw [signedText_of_nonneg hneg] at h
    exact Or.inl (isAlphanumeric_of_isDigit (isDigit_of_mem_naturalText h))

end Text

/-! ### Symbols -/

namespace Operator

lemma isAlphanumeric_symbol (operator : Operator) :
    Text.isAlphanumeric operator.symbol = false := by
  cases operator <;> decide +kernel

lemma isBlank_symbol (operator : Operator) : Text.isBlank operator.symbol = false := by
  cases operator <;> decide

lemma symbol_injective {a b : Operator} (h : a.symbol = b.symbol) : a = b := by
  cases a <;> cases b <;> first | rfl | exact absurd h (by decide)

end Operator

end Spreadsheet
