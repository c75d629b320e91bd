import Treble.Detection.Verdict
import Treble.Proofs.Version.Printing

/-!
# Verdicts in words

What is said of a device with Treble begins with a fixed text, goes on with the two numbers of the version
and ends with the remarks that apply. Each number ends where its digits do, and no two selections of
remarks read the same, so that a verdict can be read back from its words.

## Main definitions

* `Detection.remarks` — the remarks on a device with Treble
* `Detection.TrebleFacts.ofText?`, `Detection.Verdict.ofText?` — the facts, or the verdict, that a text
  says

## Main results

* `Detection.Verdict.ofText?_text` — a verdict is read back
* `Detection.TrebleFacts.text_injective`, `Detection.Verdict.text_injective` — facts and verdicts can be
  told from their words
-/

namespace Treble

namespace Text.Decimal

/-- A printed number ends where its digits do. -/
theorem span_digits_append (n : Nat) {rest : List Char}
    (ends : rest.head?.any Char.isDigit = false) :
    (digits n ++ rest).takeWhile Char.isDigit = digits n ∧
      (digits n ++ rest).dropWhile Char.isDigit = rest := by
  have digit : ∀ c ∈ digits n, c.isDigit = true := fun _ h => Version.isDigit_of_mem_digits h
  have front : rest.takeWhile Char.isDigit = [] := by
    cases rest with
    | nil => rfl
    | cons c rest => exact List.takeWhile_cons_of_neg (by simpa using ends)
  rw [List.takeWhile_append_of_pos digit, List.dropWhile_append_of_pos digit, front,
    List.append_nil, dropWhile_of_head? ends]
  exact ⟨rfl, rfl⟩

theorem digits_append_inj {n m : Nat} {rest other : List Char}
    (ends : rest.head?.any Char.isDigit = false) (otherEnds : other.head?.any Char.isDigit = false)
    (same : digits n ++ rest = digits m ++ other) : n = m ∧ rest = other := by
  obtain ⟨number, behind⟩ := span_digits_append n ends
  obtain ⟨otherNumber, otherBehind⟩ := span_digits_append m otherEnds
  rw [same, otherNumber] at number
  rw [same, otherBehind] at behind
  have read := nat?_digits n
  rw [← number, nat?_digits] at read
  exact ⟨(Option.some.inj read).symm, behind.symm⟩

/-- A number of 32 bits at the beginning of a text, and what stands behind its digits. -/
def leading? (text : List Char) : Option (UInt32 × List Char) :=
  (word32? (text.takeWhile Char.isDigit)).map (·, text.dropWhile Char.isDigit)

theorem leading?_digits_append (n : UInt32) {rest : List Char}
    (ends : rest.head?.any Char.isDigit = false) :
    leading? (digits n.toNat ++ rest) = some (n, rest) := by
  obtain ⟨number, behind⟩ := span_digits_append n.toNat ends
  rw [leading?, number, behind, word32?_digits, Option.map_some]

end Text.Decimal

namespace Detection

open Text.Decimal

/-- How the facts on a device with Treble begin. -/
def opening : List Char := "Treble, VNDK ".toList

/-- The remarks on a device with Treble. -/
def remarks (lite legacy upgradeCompliant : Bool) : List Char :=
  ((if lite then " (lite)" else "") ++ (if legacy then ", legacy manifest" else "") ++
    (if upgradeCompliant then ", upgrade compliant" else "")).toList

/-- The flags for which a text makes the remarks. -/
def remarked? (text : List Char) : Option (Bool × Bool × Bool) :=
  let either := [false, true]
  (either.product (either.product either)).find? fun (lite, legacy, upgradeCompliant) =>
    remarks lite legacy upgradeCompliant == text

/-- No two selections of remarks read the same. -/
theorem remarked?_remarks (lite legacy upgradeCompliant : Bool) :
    remarked? (remarks lite legacy upgradeCompliant) = some (lite, legacy, upgradeCompliant) := by
  cases lite <;> cases legacy <;> cases upgradeCompliant <;> decide

/-- No remark goes on with the digits of the version. -/
theorem head?_remarks (lite legacy upgradeCompliant : Bool) :
    (remarks lite legacy upgradeCompliant).head?.any Char.isDigit = false := by
  cases lite <;> cases legacy <;> cases upgradeCompliant <;> decide

namespace TrebleFacts

/-- The facts that a text says of a device with Treble. -/
def ofText? (text : List Char) : Option TrebleFacts := do
  guard (opening.isPrefixOf text)
  let (major, rest) ← leading? (text.drop opening.length)
  guard (rest.head? = some '.')
  let (minor, rest) ← leading? rest.tail
  let (lite, legacy, upgradeCompliant) ← remarked? rest
  return { legacy, lite, upgradeCompliant, version := ⟨major, minor⟩ }

theorem toList_text (facts : TrebleFacts) :
    facts.text.toList = opening ++ (digits facts.version.major.toNat ++
      '.' :: (digits facts.version.minor.toNat ++
        remarks facts.lite facts.legacy facts.upgradeCompliant)) := by
  have pieces (front version lite legacy upgrade : String) :
      (front ++ version ++ lite ++ legacy ++ upgrade).toList =
        front.toList ++ (version.toList ++ (lite ++ legacy ++ upgrade).toList) := by
    simp only [String.toList_append, List.append_assoc]
  have text : facts.text.toList = opening ++ (facts.version.text.toList ++
      remarks facts.lite facts.legacy facts.upgradeCompliant) := pieces ..
  rw [text, Version.toList_text, List.append_assoc, List.cons_append]

/-- What is said of a device with Treble is read back. -/
theorem ofText?_text (facts : TrebleFacts) : ofText? facts.text.toList = some facts := by
  have dot : ('.' :: (digits facts.version.minor.toNat ++
      remarks facts.lite facts.legacy facts.upgradeCompliant)).head?.any Char.isDigit = false := rfl
  rw [toList_text, ofText?, List.drop_left, leading?_digits_append _ dot]
  simp [leading?_digits_append _ (head?_remarks ..), remarked?_remarks]

theorem text_injective : Function.Injective text := by
  intro facts other same
  have read := ofText?_text facts
  rw [same, ofText?_text] at read
  exact (Option.some.inj read).symm

/-- Nothing that is said of a device with Treble is said of one without it. -/
theorem text_ne_notTreble (facts : TrebleFacts) : facts.text ≠ "Not Treble" := by
  intro h
  have same := congrArg String.toList h
  rw [toList_text] at same
  have first : some 'T' = some 'N' := congrArg List.head? same
  cases first

end TrebleFacts

namespace Verdict

/-- The verdict that a text says. -/
def ofText? (text : String) : Option Verdict :=
  if text = notTreble.text then some .notTreble
  else (TrebleFacts.ofText? text.toList).map .treble

/-- A verdict is read back from its words. -/
theorem ofText?_text (verdict : Verdict) : ofText? verdict.text = some verdict := by
  cases verdict with
  | treble facts =>
    have ne : (treble facts).text ≠ notTreble.text := facts.text_ne_notTreble
    rw [ofText?, if_neg ne, text, TrebleFacts.ofText?_text, Option.map_some]
  | notTreble => rw [ofText?, if_pos rfl]

theorem text_injective : Function.Injective text := by
  intro verdict other same
  have read := ofText?_text verdict
  rw [same, ofText?_text] at read
  exact (Option.some.inj read).symm

end Verdict

end Detection

end Treble
