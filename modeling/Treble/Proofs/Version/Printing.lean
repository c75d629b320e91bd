import Mathlib.Data.List.Forall2
import Treble.Proofs.Version.Best
import Treble.Proofs.Version.Grammar

/-!
# Printed versions

A version is printed in decimal, and what is printed is read as that version again, with any white space
in front of it, behind it and around its dot. Only 0.0 is printed as a token that spells no version. So
versions can be told from their printed forms, and the best of some printed versions is the greatest one
of them, whatever else is among the tokens that spells none.

## Main definitions

* `Version.IsSpaced` — a printed version with white space around its numbers

## Main results

* `Version.IsSpaced.parse_eq` — a printed version is read back
* `Version.text_inj` — versions can be told from their printed forms
* `Version.best_of_perm` — the best of some tokens is the greatest of the versions that they spell
* `Version.parse_printed` — versions survive being printed, alone and in lists
-/

namespace Treble.Version

open Text Text.Decimal

variable {version other : Version} {token : String}

/-- A token that is the printed form of a version, but for white space in front of it, behind it and on
either side of its dot. -/
def IsSpaced (version : Version) (token : String) : Prop :=
  ∃ major minor left right, version.text.toList = major ++ '.' :: minor ∧
    IsPadded isBlank major left ∧ IsPadded isBlank minor right ∧
    token.toList = left ++ '.' :: right

/-! ### Printed numbers -/

theorem toList_text (version : Version) :
    version.text.toList = digits version.major.toNat ++ '.' :: digits version.minor.toNat := by
  simp [Version.text, Text.Decimal.text, String.toList_append]

theorem isDigit_of_mem_digits {n : Nat} {c : Char} (h : c ∈ digits n) : c.isDigit = true :=
  (denotes_digits n).1.2 c h

theorem isStripped_digits (n : Nat) : IsStripped isBlank (digits n) :=
  isStripped_of_forall fun _ h => not_isBlank_of_isDigit (isDigit_of_mem_digits h)

theorem notMem_dot_digits (n : Nat) : '.' ∉ digits n := by
  intro h
  have digit := isDigit_of_mem_digits h
  exact absurd digit (by decide)

/-- The first part of a printed version is a single zero only where its major number is zero. -/
theorem digits_eq_zero_iff {n : Nat} : digits n = ['0'] ↔ n = 0 := by
  constructor
  · intro h
    have denotes := denotes_digits n
    rw [h] at denotes
    exact denotes.2.symm
  · rintro rfl
    rfl

/-! ### Printed versions -/

/-- The parts of a printed version are its numbers. -/
theorem IsSpaced.hasParts (spaced : IsSpaced version token) :
    HasParts token.toList [digits version.major.toNat, digits version.minor.toNat] := by
  obtain ⟨major, minor, left, right, htext, hmajor, hminor, htoken⟩ := spaced
  -- There is one dot in the printed form, between the numbers.
  rw [toList_text] at htext
  obtain ⟨rfl, -, rfl⟩ := (List.append_cons_inj_of_notMem (notMem_dot_digits _)
    (notMem_dot_digits _)).mp htext
  rw [htoken]
  exact .dot (hmajor.notMem (by decide) (notMem_dot_digits _)) (isStripped_digits _) hmajor
    (.last (hminor.notMem (by decide) (notMem_dot_digits _)) (isStripped_digits _) hminor)

/-- The numbers of a version spell it, unless both are zero. -/
theorem spelledBy_digits (nonzero : version ≠ ⟨0, 0⟩) :
    SpelledBy [digits version.major.toNat, digits version.minor.toNat] version := by
  rw [spelledBy_pair_iff, digits_eq_zero_iff, digits_eq_zero_iff]
  refine ⟨?_, denotes_digits _, .inl (denotes_digits _)⟩
  rintro ⟨major, minor⟩
  apply nonzero
  rw [← key_inj, key, major, minor]
  rfl

/-- A printed version is read back. -/
theorem IsSpaced.parse_eq (spaced : IsSpaced version token) (nonzero : version ≠ ⟨0, 0⟩) :
    parse token = some version := by
  rw [parse, hasParts_iff.mp spaced.hasParts]
  exact ofParts?_eq_some_iff.mpr (spelledBy_digits nonzero)

theorem isSpaced_text (version : Version) : IsSpaced version version.text :=
  ⟨_, _, _, _, toList_text version, .refl _ _, .refl _ _, toList_text version⟩

/-- The only printed version that is not read back is 0.0. -/
theorem parse_text_zero : parse (Version.text ⟨0, 0⟩) = none := by decide

/-- Versions can be told from their printed forms. -/
theorem text_inj : version.text = other.text ↔ version = other := by
  refine ⟨fun same => ?_, congrArg text⟩
  by_cases zero : version = ⟨0, 0⟩
  · by_cases zero' : other = ⟨0, 0⟩
    · rw [zero, zero']
    · have read := (isSpaced_text other).parse_eq zero'
      rw [← same, zero, parse_text_zero] at read
      cases read
  · have read := (isSpaced_text version).parse_eq zero
    by_cases zero' : other = ⟨0, 0⟩
    · rw [same, zero', parse_text_zero] at read
      cases read
    · rw [same, (isSpaced_text other).parse_eq zero'] at read
      exact (Option.some.inj read).symm

/-! ### Lists of printed versions -/

variable {versions : List Version} {printed junk tokens : List String}

/-- Some printed versions are read back, each for itself. -/
theorem filterMap_parse_of_isSpaced (spaced : List.Forall₂ IsSpaced versions printed)
    (nonzero : ∀ version ∈ versions, version ≠ ⟨0, 0⟩) : printed.filterMap parse = versions := by
  induction spaced with
  | nil => rfl
  | cons head _ ih =>
    rw [List.forall_mem_cons] at nonzero
    rw [List.filterMap_cons_some (head.parse_eq nonzero.1), ih nonzero.2]

/-- The best of some printed versions is the greatest of them, in whatever order they come and with
whatever tokens among them that spell none. -/
theorem best_of_perm (spaced : List.Forall₂ IsSpaced versions printed)
    (nonzero : ∀ version ∈ versions, version ≠ ⟨0, 0⟩) (spellNone : ∀ token ∈ junk, parse token = none)
    (perm : tokens.Perm (printed ++ junk)) : best tokens = versions.max? := by
  have hjunk : junk.filterMap parse = [] := List.filterMap_eq_nil_iff.mpr spellNone
  have hread := perm.filterMap parse
  rw [List.filterMap_append, hjunk, List.append_nil,
    filterMap_parse_of_isSpaced spaced nonzero] at hread
  exact max?_congr fun version => hread.mem_iff

/-- Versions survive being printed: but for 0.0 each is read back, with any white space around its
numbers; they can be told from their printed forms; and the best of some printed versions is the
greatest of them, in whatever order they come and with whatever tokens among them that spell none. -/
theorem parse_printed :
    (∀ version token, version ≠ ⟨0, 0⟩ → IsSpaced version token → parse token = some version) ∧
    (∀ version, IsSpaced version version.text) ∧
    Function.Injective Version.text ∧
    ∀ versions printed junk tokens, (∀ version ∈ versions, version ≠ ⟨0, 0⟩) →
      List.Forall₂ IsSpaced versions printed → (∀ token ∈ junk, parse token = none) →
      tokens.Perm (printed ++ junk) →
        best tokens = versions.max? ∧
        ∀ version, best tokens = some version ↔ IsGreatest {v | v ∈ versions} version := by
  refine ⟨fun version token nonzero spaced => spaced.parse_eq nonzero, isSpaced_text,
    fun version other same => text_inj.mp same, ?_⟩
  intro versions printed junk tokens nonzero spaced spellNone perm
  have hbest := best_of_perm spaced nonzero spellNone perm
  exact ⟨hbest, fun version => hbest ▸ max?_eq_some_iff⟩

/-- A printed version with white space around its numbers, one without, and tokens that spell none. -/
def mixedTokens : List String := ["garbage", " 30\u00A0.\t1", "0.0", "0.5"]

theorem parse_printed_mixedTokens :
    parse " 30\u00A0.\t1" = some ⟨30, 1⟩ ∧ best mixedTokens = some ⟨30, 1⟩ := by
  have major : IsPadded isBlank "30".toList " 30\u00A0".toList :=
    ⟨[' '], ['\u00A0'], List.all_eq_true.mp rfl, List.all_eq_true.mp rfl, rfl⟩
  have minor : IsPadded isBlank "1".toList "\t1".toList :=
    ⟨['\t'], [], List.all_eq_true.mp rfl, by simp, rfl⟩
  have spaced : IsSpaced ⟨30, 1⟩ " 30\u00A0.\t1" :=
    ⟨_, _, _, _, by decide, major, minor, rfl⟩
  have plain : IsSpaced ⟨0, 5⟩ "0.5" := isSpaced_text ⟨0, 5⟩
  have perm : mixedTokens.Perm ([" 30\u00A0.\t1", "0.5"] ++ ["garbage", "0.0"]) := by decide
  have hbest := parse_printed.2.2.2 [⟨30, 1⟩, ⟨0, 5⟩] [" 30\u00A0.\t1", "0.5"] ["garbage", "0.0"]
    mixedTokens (by decide) (.cons spaced (.cons plain .nil)) (by decide) perm
  exact ⟨parse_printed.1 _ _ (by decide) spaced, hbest.1.trans (by decide)⟩

end Treble.Version
