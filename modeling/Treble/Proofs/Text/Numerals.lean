import Mathlib.Data.Nat.Digits.Defs
import Treble.Text.Blank
import Treble.Text.Decimal

/-!
# Numerals

A numeral is a string of ASCII digits, with as many zeros in front as it likes. Each of its digits counts
ten times what the one behind it does. Reading a number gives this value, however long the numeral is:
whether it fits into a word is only asked of the value.

## Main definitions

* `Text.Decimal.IsNumeral` — a string of ASCII digits
* `Text.Decimal.placeValue` — the value of digits by their places
* `Text.Decimal.Denotes` — a numeral denotes a number
* `Text.Decimal.DenotesInt` — a numeral with or without a sign denotes an integer

## Main results

* `Text.Decimal.nat?_eq_some_iff_denotes` — what is read is what is denoted
* `Text.Decimal.word32?_eq_some_iff_denotes`, `Text.Decimal.word32?_eq_none_iff` — the same for 32 bits
* `Text.Decimal.int32?_eq_some_iff`, `Text.Decimal.int32?_eq_none_iff` — the same for integers of 32 bits
* `Text.Decimal.denotesInt_signedText` — an integer in decimal denotes itself
-/

namespace Treble.Text.Decimal

variable {text : List Char}

/-- A string of ASCII digits that is not empty. -/
def IsNumeral (text : List Char) : Prop := text ≠ [] ∧ ∀ c ∈ text, c.isDigit = true

instance (text : List Char) : Decidable (IsNumeral text) :=
  decidable_of_iff (text ≠ [] ∧ text.all Char.isDigit = true) (and_congr_right' List.all_eq_true)

theorem not_isBlank_of_isDigit {c : Char} (h : c.isDigit = true) : isBlank c = false := by
  simp only [Char.isDigit, Bool.and_eq_true, decide_eq_true_eq] at h
  have low : 48 ≤ c.toNat := UInt32.le_iff_toNat_le.mp h.1
  have high : c.toNat ≤ 57 := UInt32.le_iff_toNat_le.mp h.2
  simp only [isBlank, CodeRanges.covers, blankRanges, List.any_cons, List.any_nil, Bool.or_eq_false_iff,
    Bool.and_eq_false_iff, decide_eq_false_iff_not, and_true]
  omega

theorem nat?_eq_some_iff {n : Nat} :
    nat? text = some n ↔ IsNumeral text ∧ Nat.ofDigitChars 10 text 0 = n := by
  rw [nat?, Option.ite_none_right_eq_some, Option.some.injEq, List.all_eq_true, IsNumeral]

/-- A number that fits into 32 bits is read as it is. -/
theorem word32?_eq_some_iff {n : UInt32} :
    word32? text = some n ↔ IsNumeral text ∧ Nat.ofDigitChars 10 text 0 = n.toNat := by
  rw [← nat?_eq_some_iff, word32?, Option.bind_eq_some_iff]
  constructor
  · rintro ⟨value, hvalue, hword⟩
    obtain ⟨hlt, hn⟩ := Option.dite_none_right_eq_some.mp hword
    rw [← Option.some.inj hn, UInt32.toNat_ofNatLT]
    exact hvalue
  · intro h
    refine ⟨_, h, ?_⟩
    rw [dif_pos n.toNat_lt_size, UInt32.ofNatLT_toNat]

/-! ### Places -/

/-- The value of digits by their places: the last one counts once, and each one in front of another ten
times as much. -/
def placeValue (text : List Char) : Nat :=
  Nat.ofDigits 10 (text.reverse.map fun c => c.toNat - '0'.toNat)

theorem placeValue_cons (c : Char) (text : List Char) :
    placeValue (c :: text) = (c.toNat - '0'.toNat) * 10 ^ text.length + placeValue text := by
  rw [placeValue, List.reverse_cons, List.map_append, Nat.ofDigits_append, List.length_map,
    List.length_reverse, List.map_singleton, Nat.ofDigits_singleton, placeValue]
  ring

/-- Reading digits from the front on gives their value by places. -/
theorem ofDigitChars_eq_placeValue (text : List Char) (n : Nat) :
    Nat.ofDigitChars 10 text n = n * 10 ^ text.length + placeValue text := by
  induction text generalizing n with
  | nil => simp [placeValue]
  | cons c text ih =>
    rw [Nat.ofDigitChars_cons, ih, placeValue_cons, List.length_cons]
    ring

/-- A numeral denotes the value of its digits. -/
def Denotes (text : List Char) (n : Nat) : Prop := IsNumeral text ∧ placeValue text = n

instance (text : List Char) (n : Nat) : Decidable (Denotes text n) :=
  inferInstanceAs (Decidable (_ ∧ _))

/-- What is read is what is denoted. -/
theorem nat?_eq_some_iff_denotes {n : Nat} : nat? text = some n ↔ Denotes text n := by
  rw [nat?_eq_some_iff, ofDigitChars_eq_placeValue, Nat.zero_mul, Nat.zero_add, Denotes]

theorem word32?_eq_some_iff_denotes {n : UInt32} :
    word32? text = some n ↔ Denotes text n.toNat := by
  rw [word32?_eq_some_iff, ← nat?_eq_some_iff, nat?_eq_some_iff_denotes]

/-- Nothing is read where nothing is denoted but what needs more than 32 bits. -/
theorem word32?_eq_none_iff :
    word32? text = none ↔ ∀ n, Denotes text n → UInt32.size ≤ n := by
  rw [Option.eq_none_iff_forall_ne_some]
  simp only [Ne, word32?_eq_some_iff_denotes]
  constructor
  · intro h n denotes
    by_contra small
    rw [Nat.not_le] at small
    exact h (UInt32.ofNatLT n small) (by rwa [UInt32.toNat_ofNatLT])
  · intro h n denotes
    exact absurd (h _ denotes) (Nat.not_le.mpr n.toNat_lt_size)

/-- The digits of a number denote it. -/
theorem denotes_digits (n : Nat) : Denotes (digits n) n :=
  nat?_eq_some_iff_denotes.mp (nat?_digits n)

/-! ### Signs -/

/-- A numeral with a sign in front of it, or with none, denotes an integer. -/
inductive DenotesInt : List Char → Int → Prop
  | plain {text n} (denotes : Denotes text n) : DenotesInt text n
  | plus {text n} (denotes : Denotes text n) : DenotesInt ('+' :: text) n
  | minus {text n} (denotes : Denotes text n) : DenotesInt ('-' :: text) (-n)

/-- An integer is written with digits and signs. -/
theorem DenotesInt.isDigit_or {n : Int} (denotes : DenotesInt text n) {c : Char} (hc : c ∈ text) :
    c.isDigit = true ∨ c = '+' ∨ c = '-' := by
  cases denotes with
  | plain denotes => exact .inl (denotes.1.2 c hc)
  | plus denotes =>
    rcases List.mem_cons.mp hc with rfl | hc
    · exact .inr (.inl rfl)
    · exact .inl (denotes.1.2 c hc)
  | minus denotes =>
    rcases List.mem_cons.mp hc with rfl | hc
    · exact .inr (.inr rfl)
    · exact .inl (denotes.1.2 c hc)

/-- It ends with a digit. -/
theorem DenotesInt.exists_getLast? {n : Int} (denotes : DenotesInt text n) :
    ∃ c, text.getLast? = some c ∧ c.isDigit = true := by
  have last {numeral : List Char} {m : Nat} (denotes : Denotes numeral m) :
      ∃ c, numeral.getLast? = some c ∧ c.isDigit = true :=
    ⟨_, List.getLast?_eq_some_getLast denotes.1.1,
      denotes.1.2 _ (List.getLast_mem denotes.1.1)⟩
  cases denotes with
  | plain denotes => exact last denotes
  | plus denotes =>
    obtain ⟨c, hc, digit⟩ := last denotes
    exact ⟨c, by simp [List.getLast?_cons, hc], digit⟩
  | minus denotes =>
    obtain ⟨c, hc, digit⟩ := last denotes
    exact ⟨c, by simp [List.getLast?_cons, hc], digit⟩

/-- A sign is no digit, so that no numeral begins with one. -/
theorem not_denotes_of_sign {c : Char} (hc : c.isDigit = false) (rest : List Char) (n : Nat) :
    ¬ Denotes (c :: rest) n := by
  intro denotes
  have digit := denotes.1.2 c (List.mem_cons_self ..)
  rw [hc] at digit
  cases digit

/-- The number behind a sign is read first, and then taken for an integer. -/
theorem map_nat?_eq_some_iff {f : Int → Int} {n : Int} :
    Option.map f (do let value ← nat? text; pure (value : Int)) = some n ↔
      ∃ value, Denotes text value ∧ f value = n := by
  simp [Option.bind_eq_some_iff, nat?_eq_some_iff_denotes]

/-- The integer that is read is the one that is denoted. -/
theorem int?_eq_some_iff {n : Int} : int? text = some n ↔ DenotesInt text n := by
  constructor
  · intro h
    unfold int? at h
    split at h <;> obtain ⟨value, denotes, rfl⟩ := map_nat?_eq_some_iff.mp h
    · exact .minus denotes
    · exact .plus denotes
    · exact .plain denotes
  · intro h
    unfold int?
    cases h with
    | plus denotes => simp [nat?_eq_some_iff_denotes.mpr denotes]
    | minus denotes => simp [nat?_eq_some_iff_denotes.mpr denotes]
    | plain denotes =>
      split
      · exact absurd denotes (not_denotes_of_sign (by decide) _ _)
      · exact absurd denotes (not_denotes_of_sign (by decide) _ _)
      · simp [nat?_eq_some_iff_denotes.mpr denotes]

/-- An integer that fits into 32 bits is read as it is. -/
theorem int32?_eq_some_iff {n : Int32} : int32? text = some n ↔ DenotesInt text n.toInt := by
  rw [← int?_eq_some_iff, int32?, Option.bind_eq_some_iff]
  constructor
  · rintro ⟨value, hvalue, hword⟩
    obtain ⟨bounds, hn⟩ := Option.dite_none_right_eq_some.mp hword
    rw [← Option.some.inj hn, Int32.toInt_ofIntLE]
    exact hvalue
  · intro h
    refine ⟨_, h, ?_⟩
    rw [dif_pos ⟨n.minValue_le_toInt, n.toInt_le⟩, Int32.ofIntLE_toInt]

/-- Nothing is read where no integer of 32 bits is denoted. -/
theorem int32?_eq_none_iff : int32? text = none ↔ ∀ n : Int32, ¬ DenotesInt text n.toInt := by
  simp only [Option.eq_none_iff_forall_ne_some, Ne, int32?_eq_some_iff]

/-- An integer in decimal denotes itself. -/
theorem denotesInt_signedText (n : Int) : DenotesInt (signedText n).toList n := by
  have denotes := denotes_digits n.natAbs
  rw [signedText]
  split_ifs with negative
  · have hn : n = -(n.natAbs : Int) := by omega
    have hsigned : ("-" ++ Decimal.text n.natAbs).toList = '-' :: digits n.natAbs := by
      simp [Decimal.text, String.toList_append]
    rw [hsigned]
    nth_rewrite 2 [hn]
    exact .minus denotes
  · have hn : n = (n.natAbs : Int) := by omega
    rw [Decimal.text, String.toList_ofList]
    nth_rewrite 2 [hn]
    exact .plain denotes

end Treble.Text.Decimal
