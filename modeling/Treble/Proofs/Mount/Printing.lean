import Treble.Proofs.Mount.Table
import Treble.Proofs.Text.Lines

/-!
# Mount tables are read back

The lines of some entries make a table that gives these entries again, with any lines in between that are
passed over. An entry can be written in a line if its texts hold no space and no end of a line, if it has
a device and at least one option, and if no option holds a comma. All other texts may be empty, a single
option included.

## Main definitions

* `Mount.Entry.Fits` — an entry can be written in a line
* `Mount.IsTable` — a text is a table of some entries

## Main results

* `Mount.Entry.Fits.isSpelledBy` — the line of an entry is read as this entry
* `Mount.filter_lines_of_isTable` — the relevant lines of a table are those of its entries
* `Mount.parse_table` — a table is read back
-/

namespace Treble.Mount

open Text Text.Decimal

/-- An entry can be written in a line. -/
structure Entry.Fits (entry : Entry) : Prop where
  device : entry.device ≠ ""
  options : entry.options ≠ []
  noSpace : ∀ text ∈ entry.device :: entry.mountpoint :: entry.fsType :: entry.options,
    ' ' ∉ text.toList
  unbroken : ∀ text ∈ entry.device :: entry.mountpoint :: entry.fsType :: entry.options,
    '\n' ∉ text.toList
  noComma : ∀ option ∈ entry.options, ',' ∉ option.toList

instance (entry : Entry) : Decidable entry.Fits :=
  decidable_of_iff (entry.device ≠ "" ∧ entry.options ≠ [] ∧
      (∀ text ∈ entry.device :: entry.mountpoint :: entry.fsType :: entry.options,
        ' ' ∉ text.toList) ∧
      (∀ text ∈ entry.device :: entry.mountpoint :: entry.fsType :: entry.options,
        '\n' ∉ text.toList) ∧
      ∀ option ∈ entry.options, ',' ∉ option.toList)
    ⟨fun h => ⟨h.1, h.2.1, h.2.2.1, h.2.2.2.1, h.2.2.2.2⟩,
      fun h => ⟨h.device, h.options, h.noSpace, h.unbroken, h.noComma⟩⟩

/-- Some lines list entries: each entry has its line, and every other line is passed over. -/
inductive Lists : List Entry → List (List Char) → Prop
  | nil : Lists [] []
  | passedOver {entries line lines} (unbroken : '\n' ∉ line) (passedOver : IsPassedOver line)
      (rest : Lists entries lines) : Lists entries (line :: lines)
  | entry {entries lines} (entry : Entry) (rest : Lists entries lines) :
      Lists (entry :: entries) (entry.line.toList :: lines)

/-- A text is a table of some entries. Whether a line feed ends it is a matter of a last line that is
empty. -/
def IsTable (entries : List Entry) (text : String) : Prop :=
  ∃ lines, Lists entries lines ∧ text.toList = List.intercalate ['\n'] lines

variable {entry : Entry} {entries : List Entry} {line : List Char} {pieces : List (List Char)}

/-! ### The line of an entry -/

theorem toList_line (entry : Entry) : entry.line.toList =
    List.intercalate [' '] [entry.device.toList, entry.mountpoint.toList, entry.fsType.toList,
      List.intercalate [','] (entry.options.map String.toList),
      (signedText entry.dump.toInt).toList, (signedText entry.pass.toInt).toList] := by
  simp [Entry.line, String.toList_intercalate]

theorem notMem_signedText {c : Char} (digit : c.isDigit = false) (plus : c ≠ '+') (minus : c ≠ '-')
    (n : Int) : c ∉ (signedText n).toList := by
  intro hc
  rcases (denotesInt_signedText n).isDigit_or hc with h | h | h
  · rw [digit] at h
    cases h
  · exact plus h
  · exact minus h

namespace Entry

/-- The line of an entry ends with a digit. -/
theorem exists_getLast? (entry : Entry) :
    ∃ c, entry.line.toList.getLast? = some c ∧ c.isDigit = true := by
  obtain ⟨c, hc, digit⟩ := (denotesInt_signedText entry.pass.toInt).exists_getLast?
  refine ⟨c, ?_, digit⟩
  rw [toList_line]
  simp [List.intercalate, List.getLast?_append, List.getLast?_cons, hc]

/-- So no carriage return is taken from it. -/
theorem chompReturn_line (entry : Entry) : chompReturn entry.line.toList = entry.line.toList := by
  obtain ⟨c, hc, digit⟩ := exists_getLast? entry
  rw [chompReturn, if_neg]
  rw [hc, Option.some.injEq]
  rintro rfl
  cases digit

/-- A character that is in no text of an entry, nor in a number or between options, is in no field. -/
theorem notMem_field {c : Char} (digit : c.isDigit = false) (plus : c ≠ '+') (minus : c ≠ '-')
    (comma : c ≠ ',') (free : ∀ text ∈ entry.device :: entry.mountpoint :: entry.fsType :: entry.options,
      c ∉ text.toList) :
    ∀ field ∈ [entry.device.toList, entry.mountpoint.toList, entry.fsType.toList,
      List.intercalate [','] (entry.options.map String.toList),
      (signedText entry.dump.toInt).toList, (signedText entry.pass.toInt).toList],
      c ∉ field := by
  simp only [List.forall_mem_cons] at free ⊢
  obtain ⟨device, mountpoint, fsType, options⟩ := free
  have joined : c ∉ List.intercalate [','] (entry.options.map String.toList) := by
    apply notMem_intercalate comma
    rintro piece hpiece
    obtain ⟨option, hoption, rfl⟩ := List.mem_map.mp hpiece
    exact options option hoption
  exact ⟨device, mountpoint, fsType, joined, notMem_signedText digit plus minus _,
    notMem_signedText digit plus minus _, by simp⟩

namespace Fits

/-- The line of an entry is read as this entry. -/
theorem isSpelledBy (fits : entry.Fits) : entry.IsSpelledBy entry.line.toList := by
  refine ⟨_, _, _, ⟨by simp, ?_, toList_line entry⟩, ⟨?_, ?_, rfl⟩, denotesInt_signedText _,
    denotesInt_signedText _⟩
  · exact notMem_field (by decide) (by decide) (by decide) (by decide) fits.noSpace
  · simpa using fits.options
  · intro piece hpiece
    obtain ⟨option, hoption, rfl⟩ := List.mem_map.mp hpiece
    exact fits.noComma option hoption

theorem notMem_line (fits : entry.Fits) : '\n' ∉ entry.line.toList := by
  rw [toList_line]
  apply notMem_intercalate (by decide)
  exact notMem_field (by decide) (by decide) (by decide) (by decide) fits.unbroken

/-- It is not passed over. -/
theorem isRelevant_line (fits : entry.Fits) : isRelevant entry.line.toList = true := by
  obtain ⟨c, hc, digit⟩ := exists_getLast? entry
  have blank : entry.line.toList.all isBlank = false := by
    rw [List.all_eq_false]
    exact ⟨c, List.mem_of_getLast? hc, by simp [not_isBlank_of_isDigit digit]⟩
  have head : entry.line.toList.head? ≠ some ' ' := by
    -- The line begins as the device does.
    have device := fits.noSpace entry.device (by simp)
    rw [toList_line]
    cases hchars : entry.device.toList with
    | nil => exact absurd (String.toList_eq_nil_iff.mp hchars) fits.device
    | cons d rest =>
      rw [hchars] at device
      simp only [List.mem_cons, not_or] at device
      simp [List.intercalate, Ne.symm device.1]
  simp [isRelevant, blank, head]

end Fits

end Entry

/-! ### Lines that are passed over -/

/-- A line is passed over with a carriage return at its end and without. -/
theorem IsPassedOver.chompReturn (passedOver : IsPassedOver line) :
    IsPassedOver (chompReturn line) := by
  rw [Text.chompReturn]
  split
  · next hreturn =>
    obtain ⟨front, rfl⟩ := List.getLast?_eq_some_iff.mp hreturn
    rw [List.dropLast_concat]
    rcases passedOver with blank | head
    · exact .inl fun c hc => blank c (List.mem_append_left _ hc)
    · cases front with
      | nil => exact absurd (Option.some.inj head) (by decide)
      | cons c front => exact .inr head
  · exact passedOver

/-! ### Tables -/

namespace Lists

/-- The relevant lines are those of the entries. -/
theorem filter_eq (lists : Lists entries pieces) (fits : ∀ entry ∈ entries, entry.Fits) :
    pieces.filter isRelevant = entries.map (·.line.toList) := by
  induction lists with
  | nil => rfl
  | passedOver _ passedOver _ ih =>
    rw [List.filter_cons_of_neg (by simp [isRelevant_eq_false_iff.mpr passedOver]), ih fits]
  | entry entry _ ih =>
    rw [List.forall_mem_cons] at fits
    rw [List.filter_cons_of_pos fits.1.isRelevant_line, ih fits.2, List.map_cons]

theorem unbroken (lists : Lists entries pieces) (fits : ∀ entry ∈ entries, entry.Fits) :
    ∀ piece ∈ pieces, '\n' ∉ piece := by
  induction lists with
  | nil => simp
  | passedOver unbroken _ _ ih => exact List.forall_mem_cons.mpr ⟨unbroken, ih fits⟩
  | entry entry _ ih =>
    rw [List.forall_mem_cons] at fits
    exact List.forall_mem_cons.mpr ⟨fits.1.notMem_line, ih fits.2⟩

/-- The end of a line is neither relevant nor part of a relevant line. -/
theorem guard_chompReturn (lists : Lists entries pieces) :
    ∀ piece ∈ pieces, Option.guard (isRelevant ·) (chompReturn piece) =
      Option.guard (isRelevant ·) piece := by
  induction lists with
  | nil => simp
  | passedOver _ passedOver _ ih =>
    refine List.forall_mem_cons.mpr ⟨?_, ih⟩
    simp [Option.guard, isRelevant_eq_false_iff.mpr passedOver,
      isRelevant_eq_false_iff.mpr passedOver.chompReturn]
  | entry entry _ ih =>
    refine List.forall_mem_cons.mpr ⟨?_, ih⟩
    rw [Entry.chompReturn_line]

end Lists

/-- The relevant lines of a table are those of its entries. -/
theorem filter_lines_of_isTable {text : String} (table : IsTable entries text)
    (fits : ∀ entry ∈ entries, entry.Fits) :
    (lines text.toList).filter isRelevant = entries.map (·.line.toList) := by
  obtain ⟨pieces, lists, htext⟩ := table
  have hread := filterMap_lines_intercalate (by decide) lists.guard_chompReturn (lists.unbroken fits)
  rw [List.filterMap_eq_filter, ← htext] at hread
  rw [hread, lists.filter_eq fits]

/-- The plain table of some entries. -/
def print (entries : List Entry) : String := "\n".intercalate (entries.map Entry.line)

theorem isTable_print (entries : List Entry) : IsTable entries (print entries) := by
  refine ⟨entries.map (·.line.toList), ?_, by
    simp [print, String.toList_intercalate, Function.comp_def]⟩
  induction entries with
  | nil => exact .nil
  | cons entry entries ih => exact .entry entry ih

/-- The plain table of entries that can be written in lines gives exactly these entries, and so does every
table of them with further lines that are passed over. -/
theorem parse_table (entries : List Entry) (fits : ∀ entry ∈ entries, entry.Fits) :
    parse (print entries) = .ok entries ∧
      ∀ text, IsTable entries text → parse text = .ok entries := by
  have read {text : String} (table : IsTable entries text) : parse text = .ok entries := by
    rw [parse_eq_ok_iff, filter_lines_of_isTable table fits, List.forall₂_map_left_iff,
      List.forall₂_same]
    exact fun entry hentry => (fits entry hentry).isSpelledBy
  exact ⟨read (isTable_print entries), fun _ => read⟩

/-- An entry with as many empty texts as there may be. -/
def barestEntry : Entry := ⟨"none", "", "", [""], Int32.minValue, 7⟩

/-- An entry with a tab in its device and an empty option behind another one. -/
def tabbedEntry : Entry := ⟨"/dev/\tx", "/sys", "sysfs", ["rw", ""], 0, Int32.maxValue⟩

theorem parse_table_awkwardEntries :
    barestEntry.Fits ∧ tabbedEntry.Fits ∧
    parse (print [barestEntry, tabbedEntry]) = .ok [barestEntry, tabbedEntry] ∧
    parse "\r\nnone    -2147483648 7\n continued\n/dev/\tx /sys sysfs rw, 0 2147483647" =
      .ok [barestEntry, tabbedEntry] := by
  have bare : barestEntry.Fits := by decide
  have tabbed : tabbedEntry.Fits := by decide
  have fits : ∀ entry ∈ [barestEntry, tabbedEntry], entry.Fits := by simp [bare, tabbed]
  obtain ⟨plain, read⟩ := parse_table [barestEntry, tabbedEntry] fits
  refine ⟨bare, tabbed, plain, read _ ⟨["\r".toList, barestEntry.line.toList, " continued".toList,
    tabbedEntry.line.toList], ?_, by decide +kernel⟩⟩
  refine .passedOver (by decide) (.inl (List.all_eq_true.mp rfl)) (.entry barestEntry ?_)
  exact .passedOver (by decide) (.inr rfl) (.entry tabbedEntry .nil)

end Treble.Mount
