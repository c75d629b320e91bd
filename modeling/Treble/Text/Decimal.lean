/-!
# Decimal numbers

Numbers are read without a bound first; whether the value fits into a word is asked once, at the
end, so digit strings of any length are judged by their value.

## Main definitions

* `Decimal.nat?` — a non-empty string of ASCII digits
* `Decimal.int?` — the same with an optional sign in front
* `Decimal.word32?`, `Decimal.int32?`, `Decimal.int64?` — the values that fit into a word
* `Decimal.digits` — the digits of a number

## Main results

* `Decimal.nat?_digits` — the digits of a number read as that number
-/

namespace Treble.Text.Decimal

/-- The value of a non-empty string of ASCII digits. Leading zeros are allowed. -/
def nat? (text : List Char) : Option Nat :=
  if text ≠ [] ∧ text.all Char.isDigit then some (Nat.ofDigitChars 10 text 0) else none

/-- The value of a digit string that may have one sign in front. -/
def int? : List Char → Option Int
  | '-' :: rest => (nat? rest).map fun n => -(n : Int)
  | '+' :: rest => (nat? rest).map fun n => (n : Int)
  | text => (nat? text).map fun n => (n : Int)

/-- The value of a digit string, if it fits into 32 bits. -/
def word32? (text : List Char) : Option UInt32 :=
  (nat? text).bind fun n => if h : n < UInt32.size then some (UInt32.ofNatLT n h) else none

/-- The value of a signed digit string, if it fits into 32 bits. -/
def int32? (text : List Char) : Option Int32 :=
  (int? text).bind fun n =>
    if h : Int32.minValue.toInt ≤ n ∧ n ≤ Int32.maxValue.toInt then
      some (Int32.ofIntLE n h.1 h.2)
    else none

/-- The value of a signed digit string, if it fits into 64 bits. -/
def int64? (text : List Char) : Option Int64 :=
  (int? text).bind fun n =>
    if h : Int64.minValue.toInt ≤ n ∧ n ≤ Int64.maxValue.toInt then
      some (Int64.ofIntLE n h.1 h.2)
    else none

/-- The digits of a number, the most significant first. -/
def digits (n : Nat) : List Char := Nat.toDigits 10 n

/-- A number in decimal. -/
def text (n : Nat) : String := String.ofList (digits n)

/-- A number in decimal, with a minus sign in front of a negative one. -/
def signedText (n : Int) : String :=
  if n < 0 then "-" ++ text n.natAbs else text n.natAbs

theorem digits_ne_nil (n : Nat) : digits n ≠ [] := by
  intro h
  have : 0 < (Nat.toDigits 10 n).length := Nat.length_toDigits_pos
  simp only [digits] at h
  simp [h] at this

theorem isDigit_of_mem_text {n : Nat} {c : Char} (h : c ∈ (text n).toList) : c.isDigit = true := by
  rw [text, String.toList_ofList] at h
  exact Nat.isDigit_of_mem_toDigits (by omega) (by omega) h

/-- The digits of a number read as that number. -/
@[simp] theorem nat?_digits (n : Nat) : nat? (digits n) = some n := by
  have hall : (digits n).all Char.isDigit = true :=
    List.all_eq_true.mpr fun _ hc => Nat.isDigit_of_mem_toDigits (by omega) (by omega) hc
  rw [nat?, if_pos ⟨digits_ne_nil n, hall⟩, digits,
    Nat.ofDigitChars_toDigits (by omega) (by omega)]

@[simp] theorem word32?_digits (n : UInt32) : word32? (digits n.toNat) = some n := by
  simp [word32?, n.toNat_lt_size]

end Treble.Text.Decimal
