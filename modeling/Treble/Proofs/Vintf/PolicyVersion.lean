import Mathlib.Data.List.Basic
import Treble.Proofs.Text.Ascii
import Treble.Proofs.Text.Numerals
import Treble.Proofs.Text.Search
import Treble.Proofs.Version.Best
import Treble.Vintf.Sepolicy

/-!
# Versions in policy files

Of a policy file only its words count. Some of them name a version, and the version of the file is the
greatest one that is named. A word with a number that is too large names none, and hides no other word.
It makes no difference in which line a word stands, nor in which order the words come.

## Main definitions

* `Vintf.IsVersionedAttribute` — the form of the words that name versions
* `Vintf.NamesVersion` — a word names a version

## Main results

* `Vintf.findsWords_versionedAttribute` — the pattern finds the words of that form
* `Vintf.policyVersion_isGreatest` — the version of a policy file is the greatest one that its
  words name
-/

namespace Treble

namespace Vintf

open Text Text.Pattern

/-! ### The words that count -/

/-- A stem and two numbers, with underscores between them. -/
def IsVersionedAttribute (word : List Char) (numbers : List (List Char)) : Prop :=
  ∃ stem major minor, (stem = "init".toList ∨ stem = "sepolicy".toList) ∧
    Decimal.IsNumeral major ∧ Decimal.IsNumeral minor ∧
    word = stem ++ '_' :: (major ++ '_' :: minor) ∧ numbers = [major, minor]

/-- A word names a version by its two numbers. -/
def NamesVersion (word : List Char) (version : Version) : Prop :=
  ∃ major minor, IsVersionedAttribute word [major, minor] ∧
    Nat.ofDigitChars 10 major 0 = version.major.toNat ∧
    Nat.ofDigitChars 10 minor 0 = version.minor.toNat

theorem attributeVersion?_eq_some_iff {major minor : List Char} {version : Version}
    (hmajor : Decimal.IsNumeral major) (hminor : Decimal.IsNumeral minor) :
    attributeVersion? [major, minor] = some version ↔
      Nat.ofDigitChars 10 major 0 = version.major.toNat ∧
      Nat.ofDigitChars 10 minor 0 = version.minor.toNat := by
  obtain ⟨a, b⟩ := version
  simp only [attributeVersion?, Option.bind_eq_some_iff, Option.map_eq_some_iff,
    Decimal.word32?_eq_some_iff, Version.mk.injEq]
  constructor
  · rintro ⟨a, ⟨-, ha⟩, b, ⟨-, hb⟩, rfl, rfl⟩
    exact ⟨ha, hb⟩
  · rintro ⟨ha, hb⟩
    exact ⟨a, ⟨hmajor, ha⟩, b, ⟨hminor, hb⟩, rfl, rfl⟩

/-- A word names a version iff its numbers are read as that version. -/
theorem namesVersion_iff {word : List Char} {version : Version} :
    NamesVersion word version ↔
      ∃ numbers, IsVersionedAttribute word numbers ∧ attributeVersion? numbers = some version := by
  constructor
  · rintro ⟨major, minor, h, hvalues⟩
    obtain ⟨_, _, _, _, hmajor, hminor, _, hnumbers⟩ := id h
    obtain ⟨rfl, rfl, -⟩ : _ ∧ _ ∧ True := by simpa using hnumbers
    exact ⟨_, h, (attributeVersion?_eq_some_iff hmajor hminor).mpr hvalues⟩
  · rintro ⟨_, ⟨stem, major, minor, hstem, hmajor, hminor, hword, rfl⟩, hversion⟩
    exact ⟨major, minor, ⟨stem, major, minor, hstem, hmajor, hminor, hword, rfl⟩,
      (attributeVersion?_eq_some_iff hmajor hminor).mp hversion⟩

namespace IsVersionedAttribute

variable {word : List Char} {numbers others : List (List Char)}

/-- The underscores of an attribute stand between its parts and nowhere else. -/
theorem exists_splitOn_eq (h : IsVersionedAttribute word numbers) :
    ∃ stem, word.splitOn '_' = stem :: numbers := by
  obtain ⟨stem, major, minor, stems, hmajor, hminor, rfl, rfl⟩ := h
  have hdigits {text : List Char} (numeral : Decimal.IsNumeral text) : '_' ∉ text :=
    fun hmem => absurd (numeral.2 _ hmem) (by decide)
  have hstem : '_' ∉ stem := by
    rcases stems with rfl | rfl <;> decide
  have hparts : ∀ part ∈ [stem, major, minor], '_' ∉ part := by
    simp only [List.forall_mem_cons, List.not_mem_nil, false_imp_iff, implies_true, and_true]
    exact ⟨hstem, hdigits hmajor, hdigits hminor⟩
  have hsplit := List.splitOn_intercalate '_' hparts (List.cons_ne_nil _ _)
  rw [List.intercalate_cons_cons, List.intercalate_cons_cons, List.intercalate_singleton] at hsplit
  simp only [List.append_assoc, List.singleton_append] at hsplit
  exact ⟨stem, hsplit⟩

/-- The numbers of an attribute can be told from the word. -/
theorem unique (h : IsVersionedAttribute word numbers) (h' : IsVersionedAttribute word others) :
    numbers = others := by
  obtain ⟨stem, hsplit⟩ := h.exists_splitOn_eq
  obtain ⟨stem', hsplit'⟩ := h'.exists_splitOn_eq
  exact (List.cons.inj (hsplit.symm.trans hsplit')).2

theorem nonempty (h : IsVersionedAttribute word numbers) : word ≠ [] := by
  obtain ⟨stem, major, minor, -, -, -, rfl, -⟩ := h
  exact List.append_ne_nil_of_right_ne_nil _ (List.cons_ne_nil _ _)

theorem chars (h : IsVersionedAttribute word numbers) : ∀ c ∈ word, isWord c = true := by
  obtain ⟨stem, major, minor, stems, hmajor, hminor, rfl, -⟩ := h
  have hstem : ∀ c ∈ stem, isWord c = true := by
    rcases stems with rfl | rfl <;> exact List.all_eq_true.mp rfl
  have hunderscore : isWord '_' = true := by decide
  simp only [List.forall_mem_append, List.forall_mem_cons]
  exact ⟨hstem, hunderscore, fun c hc => isWord_of_isDigit (hmajor.2 c hc), hunderscore,
    fun c hc => isWord_of_isDigit (hminor.2 c hc)⟩

end IsVersionedAttribute

/-- Between its edges the pattern allows the texts of the form. -/
theorem isPlain_versionedAttribute :
    IsPlain (either (literal "init".toList) (literal "sepolicy".toList) ++ literal ['_'] ++
      group (run Char.isDigit) ++ literal ['_'] ++ group (run Char.isDigit))
      IsVersionedAttribute := by
  have hstem := (isPlain_literal "init".toList).either (isPlain_literal "sepolicy".toList)
  have hunderscore := isPlain_literal ['_']
  have hnumber := isPlain_group_run Char.isDigit
  have plain := (((hstem.append hunderscore).append hnumber).append hunderscore).append hnumber
  intro place word told behind
  rw [plain]
  refine and_congr_left fun _ => ?_
  constructor
  · rintro ⟨_, minor, _, _, ⟨_, _, _, _, ⟨_, major, _, _, ⟨stem, _, _, _, stems, ⟨rfl, rfl⟩, rfl,
      rfl⟩, ⟨hmajor, rfl⟩, rfl, rfl⟩, ⟨rfl, rfl⟩, rfl, rfl⟩, ⟨hminor, rfl⟩, rfl, rfl⟩
    rcases stems with ⟨rfl, rfl⟩ | ⟨rfl, rfl⟩
    · exact ⟨_, major, minor, .inl rfl, hmajor, hminor, by simp, by simp⟩
    · exact ⟨_, major, minor, .inr rfl, hmajor, hminor, by simp, by simp⟩
  · rintro ⟨stem, major, minor, stems, hmajor, hminor, rfl, rfl⟩
    refine ⟨stem ++ '_' :: (major ++ ['_']), minor, [major], [minor], ⟨stem ++ '_' :: major, ['_'],
      [major], [], ⟨stem ++ ['_'], major, [], [major], ⟨stem, ['_'], [], [], ?_, ⟨rfl, rfl⟩, rfl,
      rfl⟩, ⟨hmajor, rfl⟩, by simp, rfl⟩, ⟨rfl, rfl⟩, by simp, rfl⟩, ⟨hminor, rfl⟩, by simp, rfl⟩
    exact stems.imp (fun h => ⟨h, rfl⟩) fun h => ⟨h, rfl⟩

/-- The pattern finds the words of the form. -/
theorem findsWords_versionedAttribute : FindsWords versionedAttribute IsVersionedAttribute where
  matches_iff _ _ _ _ := matches_edges_iff isPlain_versionedAttribute
  nonempty _ _ h := h.nonempty
  chars _ _ h := h.chars
  unique _ _ _ h h' := h.unique h'

/-! ### Lines -/

variable {bytes : List UInt8} {word : List Char} {version : Version}

/-- The words of a file are those of its lines. -/
theorem isWordOf_lossy_iff :
    IsWordOf (Utf8.lossy bytes) word ↔
      ∃ line ∈ bytes.splitOn 0x0A, IsWordOf (Utf8.lossy line) word := by
  have hlines : ∀ lines : List (List UInt8), lines ≠ [] →
      (IsWordOf (Utf8.lossy (List.intercalate [0x0A] lines)) word ↔
        ∃ line ∈ lines, IsWordOf (Utf8.lossy line) word) := by
    intro lines nonempty
    induction lines with
    | nil => exact absurd rfl nonempty
    | cons line lines ih =>
      cases lines with
      | nil => simp
      | cons next lines =>
        rw [List.intercalate_cons_cons, List.append_assoc, List.singleton_append,
          Utf8.lossy_append_cons (by decide), isWordOf_append_cons (by decide),
          ih (List.cons_ne_nil _ _), List.exists_mem_cons_iff _ line]
  have hbytes : List.intercalate [0x0A] (bytes.splitOn 0x0A) = bytes :=
    List.intercalate_splitOn 0x0A
  have hcut := hlines (bytes.splitOn 0x0A) (List.splitOn_ne_nil _ _)
  rwa [hbytes] at hcut

/-! ### The version of a file -/

/-- A version is found in a file iff a word of it names that version. -/
theorem mem_versions_iff :
    version ∈ (bytes.splitOn 0x0A).flatMap (fun line =>
        (versionedAttribute.search (Utf8.lossy line)).filterMap attributeVersion?) ↔
      ∃ word, IsWordOf (Utf8.lossy bytes) word ∧ NamesVersion word version := by
  simp only [List.mem_flatMap, List.mem_filterMap, findsWords_versionedAttribute.mem_search_iff,
    namesVersion_iff]
  constructor
  · rintro ⟨line, hline, numbers, ⟨word, hword, hform⟩, hversion⟩
    exact ⟨word, isWordOf_lossy_iff.mpr ⟨line, hline, hword⟩, numbers, hform, hversion⟩
  · rintro ⟨word, hword, numbers, hform, hversion⟩
    obtain ⟨line, hline, hword⟩ := isWordOf_lossy_iff.mp hword
    exact ⟨line, hline, numbers, ⟨word, hword, hform⟩, hversion⟩

/-- The version of a policy file is the greatest one that a word of it names. -/
theorem policyVersion_eq_some_iff :
    policyVersion bytes = some version ↔
      IsGreatest {v | ∃ word, IsWordOf (Utf8.lossy bytes) word ∧ NamesVersion word v} version := by
  rw [policyVersion, Version.max?_eq_some_iff]
  simp only [mem_versions_iff]

/-- A policy file has no version if no word of it names one. -/
theorem policyVersion_eq_none_iff :
    policyVersion bytes = none ↔
      ∀ word, IsWordOf (Utf8.lossy bytes) word → ∀ version, ¬ NamesVersion word version := by
  rw [policyVersion, List.max?_eq_none_iff, List.eq_nil_iff_forall_not_mem]
  simp only [mem_versions_iff, not_exists, not_and]
  exact ⟨fun h word hword version => h version word hword,
    fun h version word hword => h word hword version⟩

/-- The version of a policy file is the greatest one that the words of the whole file name, and there is
none if they name none. Where the words stand and in which order they come makes no difference. -/
theorem policyVersion_isGreatest (bytes : List UInt8) :
    (∀ version, policyVersion bytes = some version ↔
      IsGreatest {v | ∃ word, IsWordOf (Utf8.lossy bytes) word ∧ NamesVersion word v} version) ∧
    (policyVersion bytes = none ↔
      ∀ word, IsWordOf (Utf8.lossy bytes) word → ∀ version, ¬ NamesVersion word version) ∧
    ∀ other : List UInt8,
      (∀ word, IsWordOf (Utf8.lossy other) word ↔ IsWordOf (Utf8.lossy bytes) word) →
        policyVersion other = policyVersion bytes := by
  refine ⟨fun version => policyVersion_eq_some_iff, policyVersion_eq_none_iff, fun other same => ?_⟩
  apply Option.ext
  intro version
  simp only [policyVersion_eq_some_iff, same]

/-- A policy file with a stem inside a word, a third number, a number that is too large and leading
zeros. -/
def boundaryPolicy : List UInt8 :=
  Utf8.encode
    ("(typeattributeset vendor_init_30_0 init_29_0_1)\n" ++
      "(sepolicy_28_4294967296 sepolicy_027_00)\ninit_26_0").toList

theorem policyVersion_isGreatest_boundaryPolicy :
    IsGreatest {v | ∃ word, IsWordOf (Utf8.lossy boundaryPolicy) word ∧ NamesVersion word v}
      ⟨27, 0⟩ :=
  ((policyVersion_isGreatest boundaryPolicy).1 ⟨27, 0⟩).mp (by decide +kernel)

end Vintf

end Treble
