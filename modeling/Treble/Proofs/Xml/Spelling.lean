import Mathlib.Data.List.Induction
import Treble.Xml.Tree.Reading

/-!
# Spellings of texts

A text can be spelled in many ways: each of its characters stands as it is, for itself, or a reference
stands for it, by a name or by its number in one of two bases. What resolves is what spells some
characters. Blanks at the ends of a spelling stand for themselves, so that stripping them makes no
difference when the white space around the characters does not count.

## Main definitions

* `Xml.IsNumeral` — digits of a base spell a number
* `Xml.IsReference` — a name or a number stands for a character
* `Xml.Spells` — a text spells some characters

## Main results

* `Xml.resolve_eq_ok_iff` — what a text resolves to is what it spells
* `Xml.Spells.strip` — a spelling without the blanks at its ends
-/

namespace Treble.Xml

open Text

/-! ### Numbers -/

/-- A number with one digit more. -/
def withDigit? (base n : Nat) (c : Char) : Option Nat :=
  (digitValue? base c).map fun digit => n * base + digit

/-- Digits of a base spell a number. -/
def IsNumeral (base : Nat) (digits : List Char) (n : Nat) : Prop :=
  digits ≠ [] ∧ digits.foldlM (withDigit? base) 0 = some n

section IsNumeral

variable {base n start : Nat} {c : Char} {digits : List Char}

theorem lt_of_digitValue? {digit : Nat} (h : digitValue? base c = some digit) : digit < base :=
  of_decide_eq_true (Option.filter_eq_some_iff.mp h).2

/-- More digits make no smaller number. -/
theorem le_of_foldlM_withDigit? (h : digits.foldlM (withDigit? base) start = some n) : start ≤ n := by
  induction digits generalizing start with
  | nil => exact Nat.le_of_eq (Option.some.inj h)
  | cons c digits ih =>
    rw [List.foldlM_cons] at h
    obtain ⟨next, hnext, hdigits⟩ := Option.bind_eq_some_iff.mp h
    obtain ⟨digit, hdigit, rfl⟩ := Option.map_eq_some_iff.mp hnext
    have hbase : 1 ≤ base := Nat.lt_of_le_of_lt (Nat.zero_le _) (lt_of_digitValue? hdigit)
    calc start ≤ start * base := Nat.le_mul_of_pos_right _ hbase
      _ ≤ start * base + digit := Nat.le_add_right ..
      _ ≤ n := ih hdigits

/-- A number that fits into 32 bits has fitted after each of its digits. -/
theorem foldlM_pushDigit_eq_ok_iff (hstart : start < UInt32.size) :
    digits.foldlM (pushDigit base) start = .ok n ↔
      digits.foldlM (withDigit? base) start = some n ∧ n < UInt32.size := by
  induction digits generalizing start with
  | nil =>
    simp only [List.foldlM_nil, pure, Except.pure, Except.ok.injEq, Option.some.injEq]
    constructor
    · rintro rfl
      exact ⟨rfl, hstart⟩
    · exact fun h => h.1
  | cons c digits ih =>
    rw [List.foldlM_cons, List.foldlM_cons, withDigit?, pushDigit]
    cases digitValue? base c with
    | none => simp [bind, Except.bind]
    | some digit =>
      by_cases hnext : start * base + digit < UInt32.size
      · simp only [if_pos hnext, bind, Except.bind, Option.map_some, Option.bind_some]
        exact ih hnext
      · simp only [if_neg hnext, bind, Except.bind, Option.map_some, Option.bind_some]
        constructor
        · intro h
          cases h
        · rintro ⟨h, hn⟩
          exact absurd (Nat.lt_of_le_of_lt (le_of_foldlM_withDigit? h) hn) hnext

/-- A sign is no digit. -/
theorem not_isNumeral_of_sign (h : c = '+' ∨ c = '-') : ¬ IsNumeral base (c :: digits) n := by
  have hdigit : digitValue? base c = none := by
    rcases h with rfl | rfl <;> rfl
  rintro ⟨-, hvalue⟩
  rw [List.foldlM_cons, withDigit?, hdigit] at hvalue
  cases hvalue

/-- Digits are read as the number that they spell, if it fits into 32 bits. -/
theorem numberOf_eq_ok_iff :
    numberOf base digits = .ok n ↔ IsNumeral base digits n ∧ n < UInt32.size := by
  unfold numberOf
  split
  · simp [IsNumeral]
  · simp [not_isNumeral_of_sign]
  · simp [not_isNumeral_of_sign]
  · next hnil _ _ =>
    have hnonempty : digits ≠ [] := hnil
    rw [foldlM_pushDigit_eq_ok_iff (by decide), IsNumeral, and_iff_right hnonempty]

theorem exists_digitValue?_of_mem (h : digits.foldlM (withDigit? base) start = some n)
    (hc : c ∈ digits) : ∃ digit, digitValue? base c = some digit := by
  induction digits generalizing start with
  | nil => cases hc
  | cons first digits ih =>
    rw [List.foldlM_cons] at h
    obtain ⟨next, hnext, hdigits⟩ := Option.bind_eq_some_iff.mp h
    rcases List.mem_cons.mp hc with rfl | hc
    · obtain ⟨digit, hdigit, -⟩ := Option.map_eq_some_iff.mp hnext
      exact ⟨digit, hdigit⟩
    · exact ih hdigits hc

/-- No digit ends a reference. -/
theorem not_endsReference_of_isNumeral (h : IsNumeral base digits n) (hc : c ∈ digits) :
    endsReference c = false := by
  obtain ⟨digit, hdigit⟩ := exists_digitValue?_of_mem h.2 hc
  cases hends : endsReference c with
  | false => rfl
  | true =>
    rw [endsReference, Bool.or_eq_true, beq_iff_eq, beq_iff_eq] at hends
    rcases hends with rfl | rfl <;> cases hdigit

end IsNumeral

/-! ### References -/

/-- The names of characters, and what they stand for. -/
def entities : List (String × Char) :=
  [("lt", '<'), ("gt", '>'), ("amp", '&'), ("apos", '\''), ("quot", '"')]

/-- What stands between an ampersand and a semicolon stands for a character: a name, or its number in
decimal or, behind a small x, in hexadecimal. Zero is the number of no character here. -/
inductive IsReference : List Char → Char → Prop
  | entity {name : List Char} {c : Char} (named : (String.ofList name, c) ∈ entities) :
      IsReference name c
  | decimal {digits : List Char} {c : Char} (numeral : IsNumeral 10 digits c.toNat)
      (nonzero : c.toNat ≠ 0) : IsReference ('#' :: digits) c
  | hexadecimal {digits : List Char} {c : Char} (numeral : IsNumeral 16 digits c.toNat)
      (nonzero : c.toNat ≠ 0) : IsReference ('#' :: 'x' :: digits) c

theorem entityValue_eq_some_iff {name : List Char} {c : Char} :
    entityValue name = some c ↔ (String.ofList name, c) ∈ entities := by
  unfold entityValue entities
  generalize String.ofList name = name
  split <;> simp_all [eq_comm]

/-- A number is that of a character unless it is zero or none. -/
theorem characterOfCode_eq_ok_iff {code : Nat} {c : Char} :
    characterOfCode code = .ok c ↔ code = c.toNat ∧ c.toNat ≠ 0 := by
  rw [characterOfCode]
  by_cases hzero : code = 0
  · rw [if_pos hzero]
    constructor
    · intro h
      cases h
    · rintro ⟨rfl, hne⟩
      exact absurd hzero hne
  rw [if_neg hzero]
  by_cases hvalid : code.isValidChar
  · rw [if_pos hvalid]
    have hcode : (Char.ofNat code).toNat = code := by
      rw [Char.ofNat, dif_pos hvalid]
      rfl
    constructor
    · intro h
      cases h
      exact ⟨hcode.symm, hcode.symm ▸ hzero⟩
    · rintro ⟨rfl, -⟩
      rw [Char.ofNat_toNat]
  · rw [if_neg hvalid]
    constructor
    · intro h
      cases h
    · rintro ⟨rfl, -⟩
      exact absurd c.valid hvalid

theorem bind_characterOfCode_eq_ok_iff {base : Nat} {digits : List Char} {c : Char} :
    (numberOf base digits).bind characterOfCode = .ok c ↔
      IsNumeral base digits c.toNat ∧ c.toNat ≠ 0 := by
  have hsize : c.toNat < UInt32.size := c.val.toNat_lt_size
  constructor
  · intro h
    cases hnumber : numberOf base digits with
    | error fault =>
      rw [hnumber] at h
      cases h
    | ok n =>
      rw [hnumber] at h
      obtain ⟨rfl, hne⟩ := characterOfCode_eq_ok_iff.mp h
      exact ⟨(numberOf_eq_ok_iff.mp hnumber).1, hne⟩
  · rintro ⟨numeral, hne⟩
    rw [numberOf_eq_ok_iff.mpr ⟨numeral, hsize⟩]
    exact characterOfCode_eq_ok_iff.mpr ⟨rfl, hne⟩

/-- A number is read in decimal, or in hexadecimal behind a small x. -/
theorem characterOf_eq_ok_iff {number : List Char} {c : Char} :
    characterOf number = .ok c ↔ IsReference ('#' :: number) c := by
  constructor
  · intro h
    unfold characterOf at h
    split at h
    · obtain ⟨numeral, nonzero⟩ := bind_characterOfCode_eq_ok_iff.mp h
      exact .hexadecimal numeral nonzero
    · obtain ⟨numeral, nonzero⟩ := bind_characterOfCode_eq_ok_iff.mp h
      exact .decimal numeral nonzero
  · intro h
    cases h with
    | entity named =>
      have hno : ∀ entry ∈ entities, entry.1.toList.head? ≠ some '#' := by decide
      exact absurd (by simp) (hno _ named)
    | decimal numeral nonzero =>
      -- Behind an x the digits would be those of the other base, but an x is no digit of ten.
      have hx : ∀ rest, number ≠ 'x' :: rest := by
        rintro rest rfl
        obtain ⟨digit, hdigit⟩ := exists_digitValue?_of_mem numeral.2 (List.mem_cons_self ..)
        cases hdigit
      unfold characterOf
      split
      · exact absurd rfl (hx _)
      · exact bind_characterOfCode_eq_ok_iff.mpr ⟨numeral, nonzero⟩
    | hexadecimal numeral nonzero => exact bind_characterOfCode_eq_ok_iff.mpr ⟨numeral, nonzero⟩

/-- What stands for a character is what is read as a reference to it. -/
theorem referenced_eq_ok_iff {position : Nat} {name : List Char} {c : Char} :
    referenced position name = .ok c ↔ IsReference name c := by
  unfold referenced
  split
  · next number =>
    rw [← characterOf_eq_ok_iff]
    cases characterOf number with
    | error fault => simp [Except.mapError]
    | ok found => simp [Except.mapError]
  · next hnumber =>
    constructor
    · intro h
      split at h
      · next hvalue =>
        cases h
        exact .entity (entityValue_eq_some_iff.mp hvalue)
      · cases h
    · intro h
      cases h with
      | entity named => rw [entityValue_eq_some_iff.mpr named]
      | decimal => exact absurd rfl (hnumber _)
      | hexadecimal => exact absurd rfl (hnumber _)

/-- The name of a reference has nothing in it that ends one. -/
theorem IsReference.not_endsReference {name : List Char} {c d : Char} (h : IsReference name c)
    (hd : d ∈ name) : endsReference d = false := by
  cases h with
  | entity named =>
    have hall : ∀ entry ∈ entities, ∀ d ∈ entry.1.toList, endsReference d = false := by
      simp [entities, endsReference]
    exact hall _ named d (by simpa using hd)
  | decimal numeral =>
    rcases List.mem_cons.mp hd with rfl | hd
    · rfl
    · exact not_endsReference_of_isNumeral numeral hd
  | hexadecimal numeral =>
    rcases List.mem_cons.mp hd with rfl | hd
    · rfl
    rcases List.mem_cons.mp hd with rfl | hd
    · rfl
    · exact not_endsReference_of_isNumeral numeral hd

/-! ### Texts -/

/-- A text spells some characters: each of them stands for itself, unless it is an ampersand, or a
reference stands for it. -/
inductive Spells : List Char → List Char → Prop
  | nil : Spells [] []
  | literal {c : Char} {text chars : List Char} (plain : c ≠ '&') (following : Spells text chars) :
      Spells (c :: text) (c :: chars)
  | reference {name : List Char} {c : Char} {text chars : List Char} (named : IsReference name c)
      (following : Spells text chars) : Spells ('&' :: (name ++ ';' :: text)) (c :: chars)

theorem map_cons_eq_ok_iff {ε : Type} {result : Except ε (List Char)} {c : Char} {chars : List Char} :
    result.map (c :: ·) = .ok chars ↔ ∃ more, result = .ok more ∧ chars = c :: more := by
  cases result with
  | error fault => simp [Except.map]
  | ok more => simp [Except.map, eq_comm]

/-- What a text resolves to is what it spells. -/
theorem resolveRest_eq_ok_iff {size : Nat} {text chars : List Char} :
    resolveRest size text = .ok chars ↔ Spells text chars := by
  constructor
  · intro h
    fun_induction resolveRest size text generalizing chars with
    | case1 =>
      cases h
      exact .nil
    | case2 rest after hdrop ih =>
      cases hvalue : referenced (size - Utf8.size rest)
          (rest.takeWhile fun c => !endsReference c) with
      | error fault =>
        rw [hvalue] at h
        cases h
      | ok c =>
        rw [hvalue] at h
        obtain ⟨more, hmore, rfl⟩ := map_cons_eq_ok_iff.mp h
        have hsplit : rest = (rest.takeWhile fun c => !endsReference c) ++ ';' :: after := by
          rw [← hdrop, List.takeWhile_append_dropWhile]
        rw [hsplit]
        exact .reference (referenced_eq_ok_iff.mp hvalue) (ih hmore)
    | case3 => cases h
    | case4 c rest hc ih =>
      obtain ⟨more, hmore, rfl⟩ := map_cons_eq_ok_iff.mp h
      exact .literal hc (ih hmore)
  · intro h
    induction h with
    | nil => rw [resolveRest]
    | literal plain _ ih =>
      rw [resolveRest_cons_of_ne plain, ih]
      rfl
    | @reference name c text chars named _ ih =>
      have hname : name.all (fun d => !endsReference d) = true :=
        List.all_eq_true.mpr fun d hd => by rw [named.not_endsReference hd, Bool.not_false]
      rw [resolveRest_reference _ hname (referenced_eq_ok_iff.mpr named), ih]
      rfl

/-- What a text resolves to is what it spells. -/
theorem resolve_eq_ok_iff {text chars : List Char} : resolve text = .ok chars ↔ Spells text chars :=
  resolveRest_eq_ok_iff

/-! ### Blanks at the ends -/

theorem ne_of_isMarkupBlank {c : Char} (h : isMarkupBlank c = true) : c ≠ '&' ∧ c ≠ ';' := by
  constructor
  · rintro rfl
    cases h
  · rintro rfl
    cases h

namespace Spells

variable {text chars tail : List Char} {c : Char}

/-- A character in front that begins no reference stands for itself. -/
theorem exists_of_cons (h : Spells (c :: text) chars) (hc : c ≠ '&') :
    ∃ more, chars = c :: more ∧ Spells text more := by
  cases h with
  | literal _ following => exact ⟨_, rfl, following⟩
  | reference => exact absurd rfl hc

/-- A character at the end that ends no reference stands for itself. -/
theorem exists_of_concat (h : Spells (text ++ [c]) chars) (hc : c ≠ ';') :
    ∃ more, chars = more ++ [c] ∧ Spells text more := by
  generalize hall : text ++ [c] = all at h
  induction h generalizing text with
  | nil => exact absurd hall (by simp)
  | @literal d rest chars plain following ih =>
    cases text with
    | nil =>
      obtain ⟨rfl, rfl⟩ := List.cons.inj hall
      cases following
      exact ⟨[], rfl, .nil⟩
    | cons e text =>
      obtain ⟨rfl, hrest⟩ := List.cons.inj hall
      obtain ⟨more, rfl, hmore⟩ := ih hrest
      exact ⟨e :: more, rfl, .literal plain hmore⟩
  | @reference name d rest chars named following ih =>
    -- The reference ends with a semicolon, so that the character is behind it.
    rcases List.eq_nil_or_concat rest with rfl | ⟨front, last, rfl⟩
    · have hlast := congrArg List.getLast? hall
      rw [List.getLast?_concat, ← List.singleton_append, ← List.append_assoc,
        List.getLast?_concat] at hlast
      exact absurd (Option.some.inj hlast) hc
    · have hconcat : text ++ [c] = ('&' :: (name ++ ';' :: front)) ++ [last] := by
        rw [hall, List.concat_eq_append]
        simp
      obtain ⟨rfl, hlast⟩ := List.append_inj' hconcat rfl
      obtain rfl := (List.cons.inj hlast).1
      obtain ⟨more, rfl, hmore⟩ := ih (List.concat_eq_append.symm)
      exact ⟨_ :: more, rfl, .reference named hmore⟩

/-- Blanks at the end stand for themselves. -/
theorem exists_of_append (h : Spells (text ++ tail) chars)
    (blank : ∀ c ∈ tail, isMarkupBlank c = true) :
    ∃ more, chars = more ++ tail ∧ Spells text more := by
  induction tail using List.reverseRecOn generalizing chars with
  | nil => exact ⟨chars, (List.append_nil _).symm, List.append_nil text ▸ h⟩
  | append_singleton tail c ih =>
    rw [← List.append_assoc] at h
    obtain ⟨more, rfl, hmore⟩ := h.exists_of_concat (ne_of_isMarkupBlank (blank c (by simp))).2
    obtain ⟨front, rfl, hfront⟩ := ih hmore fun d hd => blank d (List.mem_append_left _ hd)
    exact ⟨front, List.append_assoc .., hfront⟩

/-- Blanks in front stand for themselves. -/
theorem exists_dropWhile (h : Spells text chars) :
    ∃ more, chars = text.takeWhile isMarkupBlank ++ more ∧
      Spells (text.dropWhile isMarkupBlank) more := by
  induction text generalizing chars with
  | nil => exact ⟨chars, rfl, h⟩
  | cons c text ih =>
    cases hc : isMarkupBlank c with
    | false => exact ⟨chars, by simp [hc], by simpa [hc] using h⟩
    | true =>
      obtain ⟨rest, rfl, hrest⟩ := h.exists_of_cons (ne_of_isMarkupBlank hc).1
      obtain ⟨more, rfl, hmore⟩ := ih hrest
      exact ⟨more, by simp [hc], by simpa [hc] using hmore⟩

/-- Without the blanks at its ends a spelling stands for the same characters, but for white space around
them. -/
theorem strip (h : Spells text chars) :
    ∃ told, Spells (strip isMarkupBlank text) told ∧
      trim (String.ofList told) = trim (String.ofList chars) := by
  obtain ⟨rest, rfl, hrest⟩ := h.exists_dropWhile
  obtain ⟨tail, blank, hsplit⟩ := exists_stripEnd_append isMarkupBlank (text.dropWhile isMarkupBlank)
  rw [hsplit] at hrest
  obtain ⟨told, rfl, htold⟩ := hrest.exists_of_append blank
  refine ⟨told, htold, ?_⟩
  have hlead : ∀ c ∈ text.takeWhile isMarkupBlank, isBlank c = true := fun c hc =>
    isBlank_of_isMarkupBlank (List.all_eq_true.mp List.all_takeWhile c hc)
  have htail : ∀ c ∈ tail, isBlank c = true := fun c hc => isBlank_of_isMarkupBlank (blank c hc)
  rw [trim, trim, String.toList_ofList, String.toList_ofList, ← List.append_assoc,
    strip_append_of_all _ htail, Text.strip, Text.strip, List.dropWhile_append_of_pos hlead]

theorem append {more told : List Char} (h : Spells text chars) (h' : Spells more told) :
    Spells (text ++ more) (chars ++ told) := by
  induction h with
  | nil => exact h'
  | literal plain _ ih => exact .literal plain ih
  | reference named _ ih =>
    rw [List.cons_append, List.append_assoc, List.cons_append]
    exact .reference named ih

theorem of_blank (h : ∀ c ∈ text, isMarkupBlank c = true) : Spells text text := by
  induction text with
  | nil => exact .nil
  | cons c text ih =>
    obtain ⟨hc, htext⟩ := List.forall_mem_cons.mp h
    exact .literal (ne_of_isMarkupBlank hc).1 (ih htext)

/-- With blanks at its ends a text spells some characters if it does without them. -/
theorem of_strip (h : Spells (Text.strip isMarkupBlank text) chars) : ∃ all, Spells text all := by
  obtain ⟨tail, blank, hsplit⟩ := exists_stripEnd_append isMarkupBlank (text.dropWhile isMarkupBlank)
  have hlead : Spells (text.takeWhile isMarkupBlank) _ :=
    of_blank fun c hc => List.all_eq_true.mp List.all_takeWhile c hc
  have hall := hlead.append (h.append (of_blank blank))
  rw [Text.strip, ← hsplit, List.takeWhile_append_dropWhile] at hall
  exact ⟨_, hall⟩

end Spells

end Treble.Xml
