import Mathlib.Data.List.Basic
import Treble.Proofs.Vintf.MatrixStop
import Treble.Proofs.Vintf.Outcomes
import Treble.Proofs.Xml.TextRuns

/-!
# Respelled texts

A scan trims the texts that it is told of, and looks at those alone that stand in an element. So it
makes no difference how the characters of a text run are written, nor whether white space around them is
written as it is or by references.

## Main definitions

* `Vintf.IgnoresSpelling` — a result does not hang on white space around texts, nor on texts in front of
  a root

## Main results

* `Vintf.IgnoresSpelling.read_eq` — such a result is the same when a run is written otherwise
* `Vintf.parse_respelled` — so are the facts of a manifest and those of a matrix
-/

namespace Treble.Vintf

open Xml (Event IsTextRun Passage Reading Writes)

/-- A result of a reading hangs neither on white space around the texts nor on a text in front of all
else, which stands outside the root. -/
structure IgnoresSpelling {α : Type} (result : Reading → α) : Prop where
  trimmed : ∀ reading, result reading.trimmed = result reading
  outside : ∀ told reading, result (Reading.push (.text told) reading) = result reading

/-- Such a result is the same when the characters of a text run are written otherwise. -/
theorem IgnoresSpelling.read_eq {α : Type} {result : Reading → α} (ignores : IgnoresSpelling result)
    {before run after other : String} {chars : List Char} (isRun : IsTextRun before run after)
    (spells : Xml.Spells run.toList chars) (writes : Writes other.toList chars) :
    result (Xml.read (before ++ other ++ after)) = result (Xml.read (before ++ run ++ after)) := by
  have writes' : Writes run.toList chars := .run isRun.ne_nil isRun.plain spells
  simp only [Xml.read, String.toList_append, List.append_assoc]
  by_cases hbefore : before.toList = []
  · -- Both documents are what follows the run, with a text outside the root or without one.
    have hpiece {piece : List Char} (writes : Writes piece chars) :
        result (Reading.ofText [] (Xml.dropMark (piece ++ after.toList))) =
          result (Reading.ofText [] after.toList) := by
      obtain h | ⟨told, h⟩ := Xml.ofText_dropMark_append writes isRun.ends
      · rw [h]
      · rw [h, ignores.outside]
    rw [hbefore, List.nil_append, List.nil_append, hpiece writes, hpiece writes']
  · obtain ⟨tokens, read⟩ := isRun.begins
    rw [Xml.dropMark_append hbefore, Xml.dropMark_append hbefore, ← ignores.trimmed,
      Xml.trimmed_ofText_eq read isRun.not_endsText isRun.ends writes' writes, ignores.trimmed]

/-! ### Facts -/

theorem ManifestScan.step_trimmed (scan : ManifestScan) (event : Event) :
    scan.step event.trimmed = scan.step event := by
  cases event <;> simp [step, Event.trimmed]

theorem MatrixScan.step_trimmed (scan : MatrixScan) (event : Event) :
    scan.step event.trimmed = scan.step event := by
  cases event <;> simp [step, Event.trimmed]

namespace ManifestFacts

/-- The facts of a manifest do not hang on white space around texts, nor on texts outside the root. -/
theorem ignoresSpelling : IgnoresSpelling ofReading where
  trimmed reading := by
    simp only [ofReading, Reading.trimmed, List.foldlM_map, ManifestScan.step_trimmed]
  outside told reading := by
    have hstep : ManifestScan.step {} (.text told) = .ok {} := rfl
    simp only [ofReading, Reading.push, ManifestScan.foldlM_cons_of_ok hstep]

end ManifestFacts

namespace MatrixFacts

/-- The facts of a matrix do not hang on white space around texts, nor on texts outside the root. -/
theorem ignoresSpelling : IgnoresSpelling ofReading where
  trimmed reading := by
    simp only [ofReading, Reading.trimmed, List.foldl_map, MatrixScan.step_trimmed]
  outside told reading := by
    have hstep : MatrixScan.step {} (.text told) = {} := rfl
    simp only [ofReading, Reading.push, List.foldl_cons, hstep]

end MatrixFacts

/-! ### Documents -/

section Documents

variable {before run after : String}

/-- In a manifest that is read each text run spells some characters. -/
theorem ManifestFacts.exists_spells (isRun : IsTextRun before run after) {facts : ManifestFacts}
    (h : parse (before ++ run ++ after) = .ok facts) : ∃ chars, Xml.Spells run.toList chars := by
  by_contra broken
  obtain ⟨tokens, fault, -, hread⟩ := isRun.read_of_not_spells (not_exists.mp broken)
  have faultless := (ofReading_eq_ok_iff.mp (parse_eq_ok_iff.mp h)).1
  rw [hread] at faultless
  exact absurd faultless (Option.some_ne_none fault)

/-- In a matrix that is read a text run that spells nothing stands behind the end of the scan, where
anything may stand. -/
theorem MatrixFacts.exists_spells_or (isRun : IsTextRun before run after) {facts : MatrixFacts}
    (h : parse (before ++ run ++ after) = .ok facts) :
    (∃ chars, Xml.Spells run.toList chars) ∨ ∀ other, parse (before ++ other) = .ok facts := by
  by_cases spells : ∃ chars, Xml.Spells run.toList chars
  · exact .inl spells
  refine .inr fun other => ?_
  obtain ⟨tokens, fault, read, hread⟩ := isRun.read_of_not_spells (not_exists.mp spells)
  obtain ⟨ended, hfacts⟩ := ofReading_eq_ok_iff.mp (parse_eq_ok_iff.mp h)
  rw [hread] at ended hfacts
  have stopped : (MatrixScan.behind tokens).done = true :=
    ended.resolve_left (Option.some_ne_none fault)
  have begins : Xml.Begins (before ++ other) before tokens :=
    ⟨other, rfl, read.replace_of_imp fun ends => absurd ends isRun.not_endsText⟩
  rw [parse_eq_ok_iff, ofReading_eq_ok_iff, MatrixScan.foldl_of_begins begins stopped]
  exact ⟨.inr stopped, hfacts⟩

/-- When the characters of a text run are written otherwise, the facts of a manifest are the same, and so
are those of a matrix. Each text run of a manifest that is read has such characters. Each one of a matrix
that is read has them too, unless it stands where nothing is looked at. -/
theorem parse_respelled (isRun : IsTextRun before run after) :
    (∀ chars, Xml.Spells run.toList chars → ∀ other : String, Writes other.toList chars →
      ManifestFacts.parse (before ++ other ++ after) = ManifestFacts.parse (before ++ run ++ after) ∧
      MatrixFacts.parse (before ++ other ++ after) = MatrixFacts.parse (before ++ run ++ after)) ∧
    (∀ facts, ManifestFacts.parse (before ++ run ++ after) = .ok facts →
      ∃ chars, Xml.Spells run.toList chars) ∧
    ∀ facts, MatrixFacts.parse (before ++ run ++ after) = .ok facts →
      (∃ chars, Xml.Spells run.toList chars) ∨
        ∀ other, MatrixFacts.parse (before ++ other) = .ok facts := by
  refine ⟨fun chars spells other writes => ⟨?_, ?_⟩, fun facts => ManifestFacts.exists_spells isRun,
    fun facts => MatrixFacts.exists_spells_or isRun⟩
  · rw [ManifestFacts.parse, ManifestFacts.parse, ManifestFacts.ofDocument,
      ManifestFacts.ofDocument, ManifestFacts.ignoresSpelling.read_eq isRun spells writes]
  · rw [MatrixFacts.parse, MatrixFacts.parse, MatrixFacts.ofDocument, MatrixFacts.ofDocument,
      MatrixFacts.ignoresSpelling.read_eq isRun spells writes]

/-- A manifest up to the text of a version. -/
def frontPart : String := "<manifest><sepolicy><version>"

/-- A manifest behind that text. -/
def backPart : String := "</version></sepolicy></manifest>"

/-- A version whose characters are written in three ways, with white space around it of which a part is
written as a reference. -/
def spacedRun : String := " \u2003&#x32;7&#46;0&#x20;\n"

/-- The same characters in a section. -/
def spacedSection : String := "<![CDATA[ \u200327.0 \n]]>"

theorem parse_respelled_spacedRun :
    IsTextRun frontPart spacedRun backPart ∧
      ManifestFacts.parse (frontPart ++ spacedRun ++ backPart) = .ok ⟨some ⟨27, 0⟩, ∅, none⟩ ∧
      ManifestFacts.parse (frontPart ++ spacedSection ++ backPart) = .ok ⟨some ⟨27, 0⟩, ∅, none⟩ := by
  have isRun : IsTextRun frontPart spacedRun backPart := by
    refine ⟨by decide, by simp [spacedRun], ⟨[.opening "manifest".toList, .opening "sepolicy".toList,
      .opening "version".toList], ?_⟩, .inr rfl⟩
    exact .token (.markup "manifest>".toList (by rfl))
      (.token (.markup "sepolicy>".toList (by rfl))
        (.token (.markup "version>".toList (by rfl)) .done))
  have spells : Xml.Spells spacedRun.toList " \u200327.0 \n".toList :=
    Xml.resolve_eq_ok_iff.mp (by decide +kernel)
  have writes : Writes spacedSection.toList " \u200327.0 \n".toList := by
    have hsection : spacedSection.toList =
        "<![CDATA[".toList ++ " \u200327.0 \n".toList ++ "]]>".toList := by decide +kernel
    rw [hsection]
    exact .cdata (by decide +kernel)
  have facts : ManifestFacts.parse (frontPart ++ spacedRun ++ backPart) =
      .ok ⟨some ⟨27, 0⟩, ∅, none⟩ := by decide +kernel
  exact ⟨isRun, facts, (((parse_respelled isRun).1 _ spells _ writes).1).trans facts⟩

end Documents

end Treble.Vintf
