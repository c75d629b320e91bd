import Mathlib.Data.Set.Basic
import Treble.Version

/-!
# Zero as a version

A token made of single zeros says that there is no version. The version 0.0 has other spellings, by
longer runs of zeros or by a second part that is no number, and these are read as that version.

## Main definitions

* `Text.Decimal.IsZeros` — a run of zeros
* `Version.SpellsZero` — the tokens that are read as the version 0.0

## Main results

* `Version.parse_eq_zero_iff` — the tokens that spell zero are those that are read as 0.0
-/

namespace Treble

namespace Text.Decimal

/-- A run of zeros. -/
def IsZeros (text : List Char) : Prop := text ≠ [] ∧ ∀ c ∈ text, c = '0'

instance (text : List Char) : Decidable (IsZeros text) :=
  inferInstanceAs (Decidable (_ ≠ _ ∧ ∀ _ ∈ _, _))

theorem IsZeros.all_isDigit {text : List Char} (zeros : IsZeros text) :
    text.all Char.isDigit = true := by
  rw [List.all_eq_true]
  intro c hc
  rw [zeros.2 c hc]
  decide

/-- Digits that are read behind a number leave zero iff the number and all of them are zero. -/
theorem ofDigitChars_eq_zero_iff {text : List Char} (digits : text.all Char.isDigit = true)
    (n : Nat) : Nat.ofDigitChars 10 text n = 0 ↔ n = 0 ∧ ∀ c ∈ text, c = '0' := by
  induction text generalizing n with
  | nil => simp
  | cons c rest ih =>
    rw [List.all_cons, Bool.and_eq_true] at digits
    -- A digit has no value above that of zero unless it is another character.
    have hlow : '0'.toNat ≤ c.toNat := by
      have := digits.1
      simp only [Char.isDigit, Bool.and_eq_true, decide_eq_true_eq] at this
      exact this.1
    have hzero : c.toNat - '0'.toNat = 0 ↔ c = '0' := by
      rw [← Char.toNat_inj]
      omega
    rw [Nat.ofDigitChars_cons, ih digits.2, List.forall_mem_cons, ← hzero, ← and_assoc]
    apply and_congr_left'
    omega

theorem nat?_eq_zero_iff {text : List Char} : nat? text = some 0 ↔ IsZeros text := by
  rw [nat?, Option.ite_none_right_eq_some, Option.some.injEq]
  constructor
  · rintro ⟨⟨nonempty, digits⟩, hvalue⟩
    exact ⟨nonempty, ((ofDigitChars_eq_zero_iff digits 0).mp hvalue).2⟩
  · intro zeros
    refine ⟨⟨zeros.1, zeros.all_isDigit⟩, ?_⟩
    exact (ofDigitChars_eq_zero_iff zeros.all_isDigit 0).mpr ⟨rfl, zeros.2⟩

theorem word32?_eq_zero_iff {text : List Char} : word32? text = some 0 ↔ IsZeros text := by
  rw [← nat?_eq_zero_iff, word32?, Option.bind_eq_some_iff]
  constructor
  · rintro ⟨n, hn, hword⟩
    obtain ⟨hlt, hzero⟩ := Option.dite_none_right_eq_some.mp hword
    have hvalue := congrArg UInt32.toNat (Option.some.inj hzero)
    rw [UInt32.toNat_ofNatLT] at hvalue
    rw [hn, hvalue]
    rfl
  · intro hn
    exact ⟨0, hn, rfl⟩

end Text.Decimal

namespace Version

open Text.Decimal (IsZeros word32?)

/-- The tokens that spell the version 0.0, unlike those made of single zeros. -/
inductive SpellsZero (token : String) : Prop
  /-- A run of several zeros. -/
  | single {major : List Char} (parts : Version.parts token.toList = [major])
      (zeros : IsZeros major) (several : major ≠ ['0'])
  /-- A run of zeros and a second part that is one or counts as zero, being no number of 32 bits. -/
  | pair {major minor : List Char} (parts : Version.parts token.toList = [major, minor])
      (zeros : IsZeros major) (counts : IsZeros minor ∨ word32? minor = none)
      (several : ¬ (major = ['0'] ∧ minor = ['0']))

theorem ofParts?_single_eq_zero_iff {major : List Char} :
    ofParts? [major] = some ⟨0, 0⟩ ↔ IsZeros major ∧ major ≠ ['0'] := by
  rw [ofParts?]
  by_cases single : major = ['0']
  · simp [single]
  · simp [single, Text.Decimal.word32?_eq_zero_iff]

theorem ofParts?_pair_eq_zero_iff {major minor : List Char} :
    ofParts? [major, minor] = some ⟨0, 0⟩ ↔
      IsZeros major ∧ (IsZeros minor ∨ word32? minor = none) ∧
        ¬ (major = ['0'] ∧ minor = ['0']) := by
  have hminor : (word32? minor).getD 0 = 0 ↔ IsZeros minor ∨ word32? minor = none := by
    rw [← Text.Decimal.word32?_eq_zero_iff]
    cases word32? minor <;> simp
  rw [ofParts?, ← Text.Decimal.word32?_eq_zero_iff]
  by_cases single : major = ['0'] ∧ minor = ['0']
  · simp [single]
  · rw [if_neg (by simpa using single), Option.map_eq_some_iff]
    simp only [Version.mk.injEq, hminor, single, not_false_eq_true, and_true]
    constructor
    · rintro ⟨a, ha, rfl, counts⟩
      exact ⟨ha, counts⟩
    · rintro ⟨zeros, counts⟩
      exact ⟨0, zeros, rfl, counts⟩

/-- The tokens that spell zero are those that are read as the version 0.0. -/
theorem parse_eq_zero_iff {token : String} : parse token = some ⟨0, 0⟩ ↔ SpellsZero token := by
  rw [parse]
  constructor
  · intro h
    rcases hparts : parts token.toList with _ | ⟨major, _ | ⟨minor, _ | ⟨third, rest⟩⟩⟩
    · rw [hparts] at h
      cases h
    · rw [hparts, ofParts?_single_eq_zero_iff] at h
      exact .single hparts h.1 h.2
    · rw [hparts, ofParts?_pair_eq_zero_iff] at h
      exact .pair hparts h.1 h.2.1 h.2.2
    · simp [hparts, ofParts?] at h
  · intro h
    cases h with
    | single parts zeros several =>
      rw [parts]
      exact ofParts?_single_eq_zero_iff.mpr ⟨zeros, several⟩
    | pair parts zeros counts several =>
      rw [parts]
      exact ofParts?_pair_eq_zero_iff.mpr ⟨zeros, counts, several⟩

end Version

end Treble
