/-!
# Decimal numerals

Writing a natural number in decimal, and reading one back after an optional
plus sign.  Only ASCII digits count, and a bound can be imposed on the value.
-/

namespace RoomLoad.Text

/-- The decimal digits of a number, without leading zeros. -/
def digits (value : Nat) : List Char :=
  Nat.toDigits 10 value

/-- The number that a non-empty run of ASCII digits denotes. -/
def readDigits? (text : List Char) : Option Nat :=
  if text.isEmpty || !text.all Char.isDigit then
    none
  else
    some (Nat.ofDigitChars 10 text 0)

/-- The number that a numeral denotes: digits after at most one plus sign. -/
def readNat? : List Char → Option Nat
  | '+' :: rest => readDigits? rest
  | text => readDigits? text

def readBelow? (limit : Nat) (text : List Char) : Option Nat :=
  (readNat? text).filter fun value => value < limit

def word32 : Nat := 4294967296

def word64 : Nat := 18446744073709551616

theorem readDigits?_digits (value : Nat) : readDigits? (digits value) = some value := by
  have allDigits : (digits value).all Char.isDigit = true := by
    rw [List.all_eq_true]
    intro character member
    exact Nat.isDigit_of_mem_toDigits (by decide) (by decide) member
  have nonempty : (digits value).isEmpty = false := by
    rw [List.isEmpty_eq_false_iff]
    exact Nat.toDigits_ne_nil
  simp only [readDigits?, allDigits, nonempty, Bool.not_true, Bool.or_self]
  exact congrArg some Nat.ofDigitChars_ten_toDigits

/-- A written number starts with a digit, so it is read without looking for a
sign. -/
theorem readNat?_digits (value : Nat) : readNat? (digits value) = some value := by
  rw [readNat?]
  · exact readDigits?_digits value
  · intro rest starts
    have member : '+' ∈ digits value := by simp [starts]
    have isDigit : ('+').isDigit = true :=
      Nat.isDigit_of_mem_toDigits (by decide) (by decide) member
    exact absurd isDigit (by decide)

theorem readBelow?_digits {limit value : Nat} (below : value < limit) :
    readBelow? limit (digits value) = some value := by
  simp [readBelow?, readNat?_digits, below]

end RoomLoad.Text
