/-!
Decimal integers of 64 bits, read and written.

* `readUnsigned` reads digits with an optional plus sign as a natural number
  below `2 ^ 64`, and tells apart the three ways in which text fails to be one;
* `readSigned?` reads digits with an optional sign as a signed word;
* `naturalText` and `signedText` write without leading zeros.

Only the ten ASCII digits count, and any number of leading zeros is read.
-/

namespace Spreadsheet.Text

/-- The number of values of a word: 64-bit naturals lie below it. -/
def wordLimit : Nat := Nat.pow 2 64

/-- Why a text is not a natural number of 64 bits. -/
inductive NumberFault where
  /-- There is no text at all. -/
  | empty
  /-- Something other than a digit stands before the number outgrows a word. -/
  | invalidDigit
  /-- The digits outgrow a word. -/
  | tooLarge
  deriving DecidableEq

/-- The wording of a fault. -/
def NumberFault.message : NumberFault → String
  | .empty => "cannot parse integer from empty string"
  | .invalidDigit => "invalid digit found in string"
  | .tooLarge => "number too large to fit in target type"

/-- The value of a string of digits in base ten. -/
def digitsValue (digits : List Char) : Nat :=
  Nat.ofDigitChars 10 digits 0

/-- More digits do not make a value smaller. -/
theorem le_ofDigitChars (digits : List Char) (value : Nat) :
    value ≤ Nat.ofDigitChars 10 digits value := by
  induction digits generalizing value with
  | nil => simp
  | cons digit digits ih =>
      rw [Nat.ofDigitChars_cons]
      exact Nat.le_trans (by omega) (ih _)

/-- The value with one more digit, if that is below the limit. -/
def addDigit? (limit value : Nat) (digit : Char) : Option Nat :=
  let value := 10 * value + (digit.toNat - '0'.toNat)
  if value < limit then some value else none

/-- The value of a string of digits in base ten, if it is below the limit. Reading
stops at the digit that reaches the limit, so a long string takes no longer than
its length. -/
def valueBelow? (limit : Nat) (digits : List Char) : Option Nat :=
  digits.foldlM (addDigit? limit) 0

/-- A value below the limit is found, and no other. -/
theorem valueBelow?_eq {limit : Nat} (hlimit : 0 < limit) (digits : List Char) :
    valueBelow? limit digits =
      if digitsValue digits < limit then some (digitsValue digits) else none := by
  suffices h : ∀ value < limit, digits.foldlM (addDigit? limit) value =
      if Nat.ofDigitChars 10 digits value < limit then
        some (Nat.ofDigitChars 10 digits value)
      else none from h 0 hlimit
  intro value hvalue
  induction digits generalizing value with
  | nil => simp [hvalue]
  | cons digit digits ih =>
      rw [List.foldlM_cons, Nat.ofDigitChars_cons, addDigit?]
      generalize 10 * value + (digit.toNat - '0'.toNat) = next
      by_cases hnext : next < limit
      · simpa [hnext] using ih next hnext
      · have hle := le_ofDigitChars digits next
        have hout : ¬ Nat.ofDigitChars 10 digits next < limit := by omega
        simp [hnext, hout]

/-- The digits of a natural number of 64 bits, with no sign. The text is read
from the left, so digits that outgrow a word are blamed before what follows
them. -/
def readDigits (text : List Char) : Except NumberFault Nat :=
  match valueBelow? wordLimit (text.takeWhile Char.isDigit) with
  | none => .error .tooLarge
  | some value => if text.all Char.isDigit then .ok value else .error .invalidDigit

/-- A natural number of 64 bits, with an optional plus sign. -/
def readUnsigned : List Char → Except NumberFault Nat
  | [] => .error .empty
  | ['+'] => .error .invalidDigit
  | '+' :: digits => readDigits digits
  | digits => readDigits digits

/-- The value of a nonempty text of digits, if it is below the limit. -/
def magnitude? (limit : Nat) (digits : List Char) : Option Nat :=
  if digits ≠ [] ∧ digits.all Char.isDigit then valueBelow? limit digits else none

/-- A signed 64-bit integer, with an optional sign. There is one more number below
zero than above. -/
def readSigned? : List Char → Option Int64
  | '-' :: digits => (magnitude? (Nat.pow 2 63 + 1) digits).map fun n => Int64.ofInt (-n)
  | '+' :: digits => (magnitude? (Nat.pow 2 63) digits).map Int64.ofNat
  | digits => (magnitude? (Nat.pow 2 63) digits).map Int64.ofNat

/-- The decimal digits of a natural number. -/
def naturalText (n : Nat) : List Char :=
  Nat.toDigits 10 n

/-- The decimal digits of a signed word, after a minus sign if it is negative. -/
def signedText (n : Int64) : List Char :=
  if n.toInt < 0 then '-' :: naturalText n.toInt.natAbs else naturalText n.toInt.natAbs

/-- What is written for a natural number is worth that number. -/
theorem digitsValue_naturalText (n : Nat) : digitsValue (naturalText n) = n :=
  Nat.ofDigitChars_ten_toDigits

end Spreadsheet.Text
