import Mathlib.Tactic.IntervalCases
import Treble.Cli.Json
import Treble.Proofs.Detection.VerdictText

/-!
# Reports can be told from their texts

A text between quotes ends where the first quote is that is not escaped, and a number where its digits end.
All values tell by their first character of what kind they are, and what stands behind a field tells whether
there is another one. So the text of a value determines the value, and that of a report the verdict.

## Main definitions

* `Cli.Json.unescape?` — the first character of a text between quotes, and the rest
* `Cli.Json.kind` — the kind of a value

## Main results

* `Cli.Json.quotedText_append_inj` — texts between quotes, with anything behind them
* `Cli.Json.pretty_injective` — values can be told from their texts
* `Cli.Json.ofVerdict_injective` — verdicts can be told from their reports
-/

namespace Treble.Cli.Json

open Text.Decimal

/-! ### Texts between quotes -/

/-- The character that a letter behind a backslash stands for. -/
def ofLetter (c : Char) : Char :=
  match c with
  | 'b' => '\x08'
  | 'f' => '\x0c'
  | 'n' => '\n'
  | 'r' => '\r'
  | 't' => '\t'
  | c => c

/-- The value of a hexadecimal digit. -/
def hexValue (c : Char) : Nat := if c.isDigit then c.toNat - 48 else c.toNat - 87

/-- The first character of a text between quotes, and the rest. None if the text ends. -/
def unescape? : List Char → Option (Char × List Char)
  | '\\' :: 'u' :: '0' :: '0' :: high :: low :: rest =>
    some (Char.ofNat (16 * hexValue high + hexValue low), rest)
  | '\\' :: c :: rest => some (ofLetter c, rest)
  | '"' :: _ => none
  | c :: rest => some (c, rest)
  | [] => none

theorem unescape?_hexPair (code : Nat) (control : code < 0x20) (rest : List Char) :
    unescape? (['\\', 'u', '0', '0'] ++ hexPair code ++ rest) = some (Char.ofNat code, rest) := by
  interval_cases code <;> rfl

/-- A character is read back from its escaped form, whatever stands behind that. -/
theorem unescape?_escapedChar (c : Char) (rest : List Char) :
    unescape? (escapedChar c ++ rest) = some (c, rest) := by
  unfold escapedChar
  split
  -- Seven characters have a letter of their own; the others stand as they are, or as a number.
  case h_8 =>
    split_ifs with control
    · rw [unescape?_hexPair _ control, Char.ofNat_toNat]
    · rw [List.singleton_append]
      unfold unescape?
      split <;> simp_all
  all_goals rfl

theorem escapedChar_append_inj {c d : Char} {rest other : List Char}
    (same : escapedChar c ++ rest = escapedChar d ++ other) : c = d ∧ rest = other := by
  have read := unescape?_escapedChar c rest
  rw [same, unescape?_escapedChar] at read
  cases read
  exact ⟨rfl, rfl⟩

/-- No character is escaped as a quote. -/
theorem escapedChar_append_ne (c : Char) (rest other : List Char) :
    escapedChar c ++ rest ≠ '"' :: other := by
  intro same
  have read := unescape?_escapedChar c rest
  rw [same] at read
  cases read

theorem flatMap_escapedChar_inj {text others rest other : List Char}
    (same : text.flatMap escapedChar ++ '"' :: rest = others.flatMap escapedChar ++ '"' :: other) :
    text = others ∧ rest = other := by
  induction text generalizing others with
  | nil =>
    cases others with
    | nil => exact ⟨rfl, (List.cons.inj same).2⟩
    | cons d others =>
      rw [List.flatMap_cons, List.append_assoc] at same
      exact (escapedChar_append_ne _ _ _ same.symm).elim
  | cons c text ih =>
    rw [List.flatMap_cons, List.append_assoc] at same
    cases others with
    | nil => exact (escapedChar_append_ne _ _ _ same).elim
    | cons d others =>
      rw [List.flatMap_cons, List.append_assoc] at same
      obtain ⟨rfl, behind⟩ := escapedChar_append_inj same
      obtain ⟨rfl, rfl⟩ := ih behind
      exact ⟨rfl, rfl⟩

theorem toList_quotedText (value : String) :
    (quotedText value).toList = '"' :: (value.toList.flatMap escapedChar ++ ['"']) := by
  rw [quotedText, String.toList_ofList, List.cons_append]

/-- A text between quotes ends with the second quote, whatever stands behind it. -/
theorem quotedText_append_inj {value another : String} {rest other : List Char}
    (same : (quotedText value).toList ++ rest = (quotedText another).toList ++ other) :
    value = another ∧ rest = other := by
  rw [toList_quotedText, toList_quotedText, List.cons_append, List.cons_append, List.cons.injEq,
    List.append_assoc, List.append_assoc] at same
  obtain ⟨texts, rests⟩ := flatMap_escapedChar_inj same.2
  exact ⟨String.toList_inj.mp texts, rests⟩

/-! ### Objects -/

/-- The lines of some fields. -/
def lines (depth : Nat) (fields : List (String × Json)) : List Char :=
  (",\n".intercalate (renderFields depth fields)).toList

/-- What stands behind a field: a comma and the other fields, or the end of the object. -/
def following (depth : Nat) (rest : List Char) : List (String × Json) → List Char
  | [] => '\n' :: rest
  | field :: fields => ',' :: '\n' :: (lines depth (field :: fields) ++ '\n' :: rest)

theorem lines_append (depth : Nat) (name : String) (value : Json) (fields : List (String × Json))
    (rest : List Char) :
    lines depth ((name, value) :: fields) ++ '\n' :: rest =
      (margin depth).toList ++ ((quotedText name).toList ++
        (':' :: ' ' :: ((render depth value).toList ++ following depth rest fields))) := by
  cases fields with
  | nil => simp [lines, following, renderFields, String.toList_append]
  | cons field fields =>
    obtain ⟨name, value⟩ := field
    simp [lines, following, renderFields, String.toList_append, String.toList_intercalate]

theorem toList_render_object (depth : Nat) (field : String × Json) (fields : List (String × Json)) :
    (render depth (.object (field :: fields))).toList =
      '{' :: '\n' :: (lines (depth + 1) (field :: fields) ++
        '\n' :: ((margin depth).toList ++ ['}'])) := by
  simp [render, lines, String.toList_append]

theorem head?_following (depth : Nat) (rest : List Char) (fields : List (String × Json)) :
    (following depth rest fields).head?.any Char.isDigit = false := by
  cases fields <;> rfl

/-! ### Values -/

/-- The kinds of values. -/
def kind : Json → Nat
  | .null => 0
  | .bool _ => 1
  | .number _ => 2
  | .text _ => 3
  | .object _ => 4

/-- The kind of a value whose text begins with this character. -/
def kindOf (c : Char) : Nat :=
  if c = 'n' then 0
  else if c = 't' ∨ c = 'f' then 1
  else if c.isDigit then 2
  else if c = '"' then 3
  else 4

/-- The first character of a text tells of what kind the value is. -/
theorem exists_toList_render (depth : Nat) (value : Json) :
    ∃ c rest, (render depth value).toList = c :: rest ∧ kindOf c = value.kind := by
  cases value with
  | null => exact ⟨'n', ['u', 'l', 'l'], by rw [render]; rfl, rfl⟩
  | bool value =>
    cases value with
    | false => exact ⟨'f', ['a', 'l', 's', 'e'], by rw [render]; rfl, rfl⟩
    | true => exact ⟨'t', ['r', 'u', 'e'], by rw [render]; rfl, rfl⟩
  | number value =>
    obtain ⟨c, rest, hdigits⟩ := List.exists_cons_of_ne_nil (digits_ne_nil value)
    have digit : c.isDigit = true :=
      Version.isDigit_of_mem_digits (hdigits ▸ List.mem_cons_self .. : c ∈ digits value)
    have noLetter : c ≠ 'n' ∧ ¬ (c = 't' ∨ c = 'f') := by
      refine ⟨?_, ?_⟩
      · rintro rfl
        exact absurd digit (by decide)
      · rintro (rfl | rfl) <;> exact absurd digit (by decide)
    refine ⟨c, rest, ?_, ?_⟩
    · rw [render, Text.Decimal.text, String.toList_ofList, hdigits]
    · rw [kindOf, if_neg noLetter.1, if_neg noLetter.2, if_pos digit, kind]
  | text value => exact ⟨'"', _, by rw [render, toList_quotedText], rfl⟩
  | object fields =>
    cases fields with
    | nil => exact ⟨'{', ['}'], by rw [render]; rfl, rfl⟩
    | cons field fields => exact ⟨'{', _, toList_render_object .., rfl⟩

theorem kind_eq_of_render {value another : Json} {depth : Nat} {rest other : List Char}
    (same : (render depth value).toList ++ rest = (render depth another).toList ++ other) :
    value.kind = another.kind := by
  obtain ⟨c, tail, htext, hkind⟩ := exists_toList_render depth value
  obtain ⟨d, otherTail, hother, hotherKind⟩ := exists_toList_render depth another
  rw [htext, hother, List.cons_append, List.cons_append, List.cons.injEq] at same
  rw [← hkind, ← hotherKind, same.1]

mutual

/-- A value ends where its text does, whatever stands behind it, if that cannot go on a number. -/
theorem render_append_inj (value another : Json) (depth : Nat) (rest other : List Char)
    (ends : rest.head?.any Char.isDigit = false) (otherEnds : other.head?.any Char.isDigit = false)
    (same : (render depth value).toList ++ rest = (render depth another).toList ++ other) :
    value = another ∧ rest = other :=
  match value, another, kind_eq_of_render same with
  | .null, .null, _ => ⟨rfl, List.append_cancel_left same⟩
  | .bool value, .bool another, _ => by
    cases value <;> cases another <;> simp_all [render]
  | .number value, .number another, _ => by
    rw [render, render, Text.Decimal.text, Text.Decimal.text, String.toList_ofList,
      String.toList_ofList] at same
    obtain ⟨rfl, behind⟩ := digits_append_inj ends otherEnds same
    exact ⟨rfl, behind⟩
  | .text value, .text another, _ => by
    rw [render, render] at same
    obtain ⟨rfl, behind⟩ := quotedText_append_inj same
    exact ⟨rfl, behind⟩
  | .object [], .object [], _ => ⟨rfl, List.append_cancel_left same⟩
  | .object [], .object (field :: fields), _ => by
    rw [toList_render_object, render] at same
    cases same
  | .object (field :: fields), .object [], _ => by
    rw [toList_render_object, render] at same
    cases same
  | .object (field :: fields), .object (otherField :: otherFields), _ => by
    rw [toList_render_object, toList_render_object] at same
    simp only [List.cons_append, List.append_assoc, List.nil_append, List.cons.injEq, true_and] at same
    -- With a comma in front the fields are what stands behind another field.
    obtain ⟨fields, behind⟩ := following_inj (depth + 1) _ _ (field :: fields)
      (otherField :: otherFields) (congrArg (',' :: '\n' :: ·) same)
    exact ⟨congrArg object fields, (List.cons.inj (List.append_cancel_left behind)).2⟩

/-- What stands behind a field tells whether there is another one. -/
theorem following_inj (depth : Nat) (rest other : List Char) : ∀ fields others,
    following depth rest fields = following depth other others → fields = others ∧ rest = other
  | [], [], same => ⟨rfl, (List.cons.inj same).2⟩
  | [], _ :: _, same => by cases same
  | _ :: _, [], same => by cases same
  | (name, value) :: fields, (otherName, otherValue) :: others, same => by
    rw [following, following, lines_append, lines_append] at same
    simp only [List.cons.injEq, true_and] at same
    -- The name ends at its quote, and the value where its text does, for no digit stands behind it.
    obtain ⟨rfl, colons⟩ := quotedText_append_inj (List.append_cancel_left same)
    simp only [List.cons.injEq, true_and] at colons
    obtain ⟨rfl, behind⟩ := render_append_inj value otherValue depth _ _ (head?_following ..)
      (head?_following ..) colons
    obtain ⟨rfl, rfl⟩ := following_inj depth rest other fields others behind
    exact ⟨rfl, rfl⟩

end

/-- Values can be told from their texts. -/
theorem pretty_injective : Function.Injective pretty := by
  intro value another same
  have texts : (render 0 value).toList ++ [] = (render 0 another).toList ++ [] := by
    rw [← pretty, ← pretty, same]
  exact (render_append_inj value another 0 [] [] rfl rfl texts).1

/-! ### Reports -/

theorem ofFacts_injective : Function.Injective ofFacts := by
  rintro ⟨legacy, lite, upgradeCompliant, major, minor⟩
    ⟨otherLegacy, otherLite, otherUpgradeCompliant, otherMajor, otherMinor⟩ same
  obtain ⟨rfl, rfl, rfl, rfl, rfl⟩ : legacy = otherLegacy ∧ lite = otherLite ∧
      upgradeCompliant = otherUpgradeCompliant ∧ minor = otherMinor ∧ major = otherMajor := by
    simpa [ofFacts, UInt32.toNat_inj] using same
  rfl

/-- Verdicts can be told from their reports. -/
theorem ofVerdict_injective : Function.Injective ofVerdict := by
  intro verdict other same
  cases verdict with
  | treble facts =>
    cases other with
    | treble others =>
      have results : ofFacts facts = ofFacts others := by simpa [ofVerdict] using same
      rw [ofFacts_injective results]
    | notTreble => simp [ofVerdict] at same
  | notTreble =>
    cases other with
    | treble others => simp [ofVerdict] at same
    | notTreble => rfl

end Treble.Cli.Json
