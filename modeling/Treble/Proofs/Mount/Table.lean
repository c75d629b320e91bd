import Treble.Mount
import Treble.Proofs.Except
import Treble.Proofs.Text.Cutting
import Treble.Proofs.Text.Numerals

/-!
# Which mount tables are read

Blank lines and lines that begin with a space are passed over. A mount table is read if each other line
is the line of an entry, and then it gives these entries in order. Otherwise the first such line that is
none is to blame. The error gives its number
among all lines of the table, those that are passed over included, and one fault of it: that there are
not six fields, else that the fifth field is no number, else that the sixth is none.

## Main definitions

* `Mount.IsPassedOver` — a line that no entry is looked for in
* `Mount.Entry.IsSpelledBy` — a line is that of an entry
* `Mount.IsComplete` — a line has six fields, the last two of them numbers
* `Mount.IsFaulty` — what is wrong with a line that has not

## Main results

* `Mount.Entry.ofLine_eq_ok_iff`, `Mount.Entry.ofLine_eq_error_iff` — what a line gives
* `Mount.parse_eq_ok_iff`, `Mount.parse_eq_error_iff` — what a table gives
* `Mount.parse_outcomes` — when there are entries, which ones, and what is blamed otherwise
-/

namespace Treble.Mount

open Text Text.Decimal

/-! ### Lines -/

/-- A line is passed over if it is blank or begins with a space. -/
def IsPassedOver (line : List Char) : Prop :=
  (∀ c ∈ line, isBlank c = true) ∨ line.head? = some ' '

/-- A line is that of an entry: six fields with a space between any two of them, of which the fourth
holds the options with a comma between any two, and the last two the numbers. -/
def Entry.IsSpelledBy (entry : Entry) (line : List Char) : Prop :=
  ∃ options dump pass,
    Splits ' ' line [entry.device.toList, entry.mountpoint.toList, entry.fsType.toList,
      options, dump, pass] ∧
    Splits ',' options (entry.options.map String.toList) ∧
    DenotesInt dump entry.dump.toInt ∧ DenotesInt pass entry.pass.toInt

/-- A line has six fields with a space between any two of them, and the last two are integers of 32
bits. -/
def IsComplete (line : List Char) : Prop :=
  ∃ device mountpoint fsType options dump pass,
    Splits ' ' line [device, mountpoint, fsType, options, dump, pass] ∧
    (∃ n : Int32, DenotesInt dump n.toInt) ∧ ∃ n : Int32, DenotesInt pass n.toInt

/-- What is wrong with a line that is no entry. Of several faults the first one counts. -/
inductive IsFaulty (line : List Char) : Fault → Prop
  | fieldCount {fields} (splits : Splits ' ' line fields) (count : fields.length ≠ 6) :
      IsFaulty line (.fieldCount fields.length)
  | dump {device mountpoint fsType options dump pass}
      (splits : Splits ' ' line [device, mountpoint, fsType, options, dump, pass])
      (bad : ∀ n : Int32, ¬ DenotesInt dump n.toInt) : IsFaulty line (.dump (String.ofList dump))
  | pass {device mountpoint fsType options dump pass} {n : Int32}
      (splits : Splits ' ' line [device, mountpoint, fsType, options, dump, pass])
      (good : DenotesInt dump n.toInt) (bad : ∀ n : Int32, ¬ DenotesInt pass n.toInt) :
      IsFaulty line (.pass (String.ofList pass))

variable {line : List Char} {entry : Entry} {fault : Fault}

theorem isRelevant_eq_false_iff : isRelevant line = false ↔ IsPassedOver line := by
  simp only [isRelevant, IsPassedOver, Bool.and_eq_false_iff, Bool.not_eq_false', List.all_eq_true,
    bne_eq_false_iff_eq]

instance (line : List Char) : Decidable (IsPassedOver line) :=
  decidable_of_iff (isRelevant line = false) isRelevant_eq_false_iff

/-- An entry is looked for in every line that is not passed over. -/
theorem isRelevant_iff : isRelevant line = true ↔ ¬ IsPassedOver line := by
  rw [← isRelevant_eq_false_iff, Bool.not_eq_false]

theorem filter_isRelevant (lines : List (List Char)) :
    lines.filter isRelevant = lines.filter (¬ IsPassedOver ·) := by
  apply List.filter_congr
  intro line _
  rw [Bool.eq_iff_iff, isRelevant_iff, decide_eq_true_iff]

theorem map_toList_map_ofList (pieces : List (List Char)) :
    (pieces.map String.ofList).map String.toList = pieces := by
  simp [Function.comp_def]

theorem map_ofList_map_toList (texts : List String) :
    (texts.map String.toList).map String.ofList = texts := by
  simp [Function.comp_def]

/-- Every such line is that of an entry: nothing else is asked of the fields. -/
theorem exists_isSpelledBy_iff : (∃ entry : Entry, entry.IsSpelledBy line) ↔ IsComplete line := by
  constructor
  · rintro ⟨entry, options, dump, pass, hfields, -, hdump, hpass⟩
    exact ⟨_, _, _, options, dump, pass, hfields, ⟨_, hdump⟩, _, hpass⟩
  · rintro ⟨device, mountpoint, fsType, options, dump, pass, hfields, ⟨m, hdump⟩, n, hpass⟩
    refine ⟨⟨String.ofList device, String.ofList mountpoint, String.ofList fsType,
      (options.splitOn ',').map String.ofList, m, n⟩, options, dump, pass, ?_, ?_, hdump, hpass⟩
    · simpa using hfields
    · rw [map_toList_map_ofList]
      exact splitOn_eq_iff.mp rfl

/-- A line is complete or has a first fault. -/
theorem isComplete_or_isFaulty (line : List Char) :
    IsComplete line ∨ ∃ fault, IsFaulty line fault := by
  by_cases count : (line.splitOn ' ').length = 6
  · match hsplit : line.splitOn ' ', count with
    | [device, mountpoint, fsType, options, dump, pass], _ =>
      have hfields := splitOn_eq_iff.mp hsplit
      by_cases hdump : ∃ n : Int32, DenotesInt dump n.toInt
      · by_cases hpass : ∃ n : Int32, DenotesInt pass n.toInt
        · exact .inl ⟨_, _, _, _, dump, pass, hfields, hdump, hpass⟩
        · obtain ⟨n, good⟩ := hdump
          exact .inr ⟨_, .pass hfields good (not_exists.mp hpass)⟩
      · exact .inr ⟨_, .dump hfields (not_exists.mp hdump)⟩
  · exact .inr ⟨_, .fieldCount (splitOn_eq_iff.mp rfl) count⟩

namespace Entry

theorem IsSpelledBy.ofLine_eq (spelled : entry.IsSpelledBy line) : ofLine line = .ok entry := by
  obtain ⟨options, dump, pass, hfields, hoptions, hdump, hpass⟩ := spelled
  rw [ofLine, splitOn_eq_iff.mpr hfields]
  simp only [ofFields, int32?_eq_some_iff.mpr hdump, int32?_eq_some_iff.mpr hpass,
    splitOn_eq_iff.mpr hoptions, map_ofList_map_toList, String.ofList_toList]

theorem ofLine_eq_of_isFaulty (faulty : IsFaulty line fault) : ofLine line = .error fault := by
  rw [ofLine]
  cases faulty with
  | fieldCount hfields count =>
    rw [splitOn_eq_iff.mpr hfields]
    unfold ofFields
    split
    · exact absurd rfl count
    · rfl
  | dump hfields bad =>
    rw [splitOn_eq_iff.mpr hfields]
    simp only [ofFields, int32?_eq_none_iff.mpr bad]
  | pass hfields good bad =>
    rw [splitOn_eq_iff.mpr hfields]
    simp only [ofFields, int32?_eq_some_iff.mpr good, int32?_eq_none_iff.mpr bad]

/-- A line gives the entry that it is the line of. -/
theorem ofLine_eq_ok_iff : ofLine line = .ok entry ↔ entry.IsSpelledBy line := by
  refine ⟨fun h => ?_, IsSpelledBy.ofLine_eq⟩
  rcases isComplete_or_isFaulty line with complete | ⟨fault, faulty⟩
  · obtain ⟨other, spelled⟩ := exists_isSpelledBy_iff.mpr complete
    rw [spelled.ofLine_eq] at h
    cases h
    exact spelled
  · rw [ofLine_eq_of_isFaulty faulty] at h
    cases h

/-- A line that is no entry gives its first fault. -/
theorem ofLine_eq_error_iff : ofLine line = .error fault ↔ IsFaulty line fault := by
  refine ⟨fun h => ?_, ofLine_eq_of_isFaulty⟩
  rcases isComplete_or_isFaulty line with complete | ⟨first, faulty⟩
  · obtain ⟨entry, spelled⟩ := exists_isSpelledBy_iff.mpr complete
    rw [spelled.ofLine_eq] at h
    cases h
  · rw [ofLine_eq_of_isFaulty faulty] at h
    cases h
    exact faulty

end Entry

/-! ### Numbers of lines -/

/-- The lines that may hold an entry, numbered from some number on. -/
def numbered (number : Nat) (lines : List (List Char)) : List (Nat × List Char) :=
  (lines.zipIdx number).filterMap fun (line, number) =>
    if isRelevant line then some (number, line) else none

theorem numbered_append (number : Nat) (front back : List (List Char)) :
    numbered number (front ++ back) = numbered number front ++ numbered (number + front.length) back := by
  rw [numbered, List.zipIdx_append, List.filterMap_append, numbered, numbered]

theorem numbered_cons (number : Nat) (line : List Char) (rest : List (List Char)) :
    numbered number (line :: rest) =
      if isRelevant line then (number, line) :: numbered (number + 1) rest
      else numbered (number + 1) rest := by
  simp only [numbered, List.zipIdx_cons, List.filterMap_cons]
  split_ifs <;> rfl

/-- The lines that are numbered are the relevant ones. -/
theorem map_snd_numbered (number : Nat) (lines : List (List Char)) :
    (numbered number lines).map Prod.snd = lines.filter isRelevant := by
  induction lines generalizing number with
  | nil => rfl
  | cons line rest ih =>
    rw [numbered_cons, List.filter_cons]
    split_ifs
    · rw [List.map_cons, ih]
    · exact ih (number + 1)

/-- The number of a line counts the lines in front of it, relevant or not. -/
theorem exists_split_of_numbered {number n : Nat} {lines : List (List Char)}
    {before after : List (Nat × List Char)}
    (h : numbered number lines = before ++ (n, line) :: after) :
    ∃ front back, lines = front ++ line :: back ∧ numbered number front = before ∧
      isRelevant line = true ∧ n = number + front.length := by
  induction lines generalizing number before with
  | nil => exact absurd h.symm (by simp [numbered])
  | cons first rest ih =>
    rw [numbered_cons] at h
    split_ifs at h with relevant
    · cases before with
      | nil =>
        obtain ⟨hfirst, -⟩ := List.cons.inj h
        cases hfirst
        exact ⟨[], rest, rfl, rfl, relevant, rfl⟩
      | cons head before =>
        obtain ⟨rfl, hrest⟩ := List.cons.inj h
        obtain ⟨front, back, rfl, rfl, hline, rfl⟩ := ih hrest
        refine ⟨first :: front, back, rfl, ?_, hline, by simp; omega⟩
        rw [numbered_cons, if_pos relevant]
    · obtain ⟨front, back, rfl, rfl, hline, rfl⟩ := ih h
      refine ⟨first :: front, back, rfl, ?_, hline, by simp; omega⟩
      rw [numbered_cons, if_neg relevant]

/-! ### Tables -/

theorem ofNumberedLine_eq_ok_iff {numbered : Nat × List Char} :
    Entry.ofNumberedLine numbered = .ok entry ↔ entry.IsSpelledBy numbered.2 := by
  rw [Entry.ofNumberedLine, mapError_eq_ok_iff, Entry.ofLine_eq_ok_iff]

theorem ofNumberedLine_eq_error_iff {numbered : Nat × List Char} {error : Error} :
    Entry.ofNumberedLine numbered = .error error ↔
      ∃ fault, IsFaulty numbered.2 fault ∧ error = malformedLine numbered.1 fault := by
  rw [Entry.ofNumberedLine, mapError_eq_error_iff]
  simp only [Entry.ofLine_eq_error_iff]

/-- The lines that may hold an entry are read one by one. -/
theorem parse_eq_mapM (text : String) :
    parse text = (numbered 1 (lines text.toList)).mapM Entry.ofNumberedLine := rfl

/-- All of some lines are read iff each of them that may hold an entry is the line of one. -/
theorem forall_numbered_iff {number : Nat} {lines : List (List Char)} :
    (∀ a ∈ numbered number lines, ∃ entry, Entry.ofNumberedLine a = .ok entry) ↔
      ∀ line ∈ lines, isRelevant line = true → IsComplete line := by
  simp only [ofNumberedLine_eq_ok_iff, exists_isSpelledBy_iff]
  have hmap := map_snd_numbered number lines
  constructor
  · intro h line hline relevant
    have hmem : line ∈ (numbered number lines).map Prod.snd := by
      rw [hmap]
      exact List.mem_filter.mpr ⟨hline, relevant⟩
    obtain ⟨a, ha, rfl⟩ := List.mem_map.mp hmem
    exact h a ha
  · intro h a ha
    have hmem := List.mem_map_of_mem (f := Prod.snd) ha
    rw [hmap, List.mem_filter] at hmem
    exact h a.2 hmem.1 hmem.2

/-- A table gives some entries iff its relevant lines are the lines of these entries, in their order. -/
theorem parse_eq_ok_iff {text : String} {entries : List Entry} :
    parse text = .ok entries ↔
      List.Forall₂ (fun line entry => entry.IsSpelledBy line)
        ((lines text.toList).filter isRelevant) entries := by
  rw [parse_eq_mapM, mapM_eq_ok_iff, ← map_snd_numbered 1, List.forall₂_map_left_iff]
  simp only [ofNumberedLine_eq_ok_iff]

/-- A table gives an error iff this is the one for its first relevant line that is no entry. -/
theorem parse_eq_error_iff {text : String} {error : Error} :
    parse text = .error error ↔
      ∃ front line back fault, lines text.toList = front ++ line :: back ∧
        (∀ earlier ∈ front, isRelevant earlier = true → IsComplete earlier) ∧
        isRelevant line = true ∧ IsFaulty line fault ∧
        error = malformedLine (front.length + 1) fault := by
  rw [parse_eq_mapM, mapM_eq_error_iff]
  simp only [ofNumberedLine_eq_error_iff]
  constructor
  · rintro ⟨before, ⟨number, line⟩, after, hsplit, hbefore, fault, faulty, rfl⟩
    obtain ⟨front, back, hlines, rfl, relevant, rfl⟩ := exists_split_of_numbered hsplit
    refine ⟨front, line, back, fault, hlines, forall_numbered_iff.mp hbefore, relevant, faulty, ?_⟩
    rw [Nat.add_comm]
  · rintro ⟨front, line, back, fault, hlines, hfront, relevant, faulty, rfl⟩
    refine ⟨numbered 1 front, (front.length + 1, line), numbered (front.length + 2) back, ?_,
      forall_numbered_iff.mpr hfront, fault, faulty, rfl⟩
    rw [hlines, numbered_append, numbered_cons, if_pos relevant, Nat.add_comm 1]

/-- A table is read as a whole or not at all. It is read iff each line that is not passed over has six
fields of which the last two are integers of 32 bits, and then it gives one entry for each of these lines,
in their order. Otherwise the first of them for which this is not so is blamed: by its number among all
lines, and by its first fault. -/
theorem parse_outcomes (text : String) :
    ((∃ entries, parse text = .ok entries) ↔
      ∀ line ∈ lines text.toList, ¬ IsPassedOver line → IsComplete line) ∧
    (∀ entries, parse text = .ok entries ↔
      List.Forall₂ (fun line entry => entry.IsSpelledBy line)
        ((lines text.toList).filter (¬ IsPassedOver ·)) entries) ∧
    ∀ error, parse text = .error error ↔
      ∃ front line back fault, lines text.toList = front ++ line :: back ∧
        (∀ earlier ∈ front, ¬ IsPassedOver earlier → IsComplete earlier) ∧
        ¬ IsPassedOver line ∧ IsFaulty line fault ∧
        error = .malformed "Incorrect /proc/mounts format"
          { field := some ("line " ++ Decimal.text (front.length + 1))
            details := some fault.message } := by
  rw [← filter_isRelevant]
  simp only [← isRelevant_iff]
  refine ⟨?_, fun _ => parse_eq_ok_iff, fun _ => parse_eq_error_iff⟩
  rw [parse_eq_mapM, exists_mapM_eq_ok_iff, forall_numbered_iff]

/-- A table of one entry, with lines in front of it that are passed over. -/
def soundTable : String := "\n  continued\n\t\r\nsysfs /sys sysfs rw,nosuid +1 -2\n"

/-- A table with two faulty lines, the first of which is the fourth of all. -/
def faultyTable : String :=
  "none /dev tmpfs rw,nosuid 0 0\n\n  continued\nsysfs /sys sysfs rw +1 x\n0\n"

/-- The lines that are passed over are counted, and of two faulty lines the first one is blamed. -/
theorem parse_outcomes_faultyTable :
    parse soundTable = .ok [⟨"sysfs", "/sys", "sysfs", ["rw", "nosuid"], 1, -2⟩] ∧
    parse faultyTable = .error (.malformed "Incorrect /proc/mounts format"
      { field := some "line 4", details := some "invalid pass field \"x\"" }) := by
  have soundLines : (lines soundTable.toList).filter (¬ IsPassedOver ·) =
      ["sysfs /sys sysfs rw,nosuid +1 -2".toList] := by decide +kernel
  have sound := (parse_outcomes soundTable).2.1
    [⟨"sysfs", "/sys", "sysfs", ["rw", "nosuid"], 1, -2⟩]
  rw [soundLines] at sound
  have faultyLines : lines faultyTable.toList =
      ["none /dev tmpfs rw,nosuid 0 0".toList, [], "  continued".toList] ++
        "sysfs /sys sysfs rw +1 x".toList :: ["0".toList] := by decide +kernel
  have first : (⟨"none", "/dev", "tmpfs", ["rw", "nosuid"], 0, 0⟩ : Entry).IsSpelledBy
      "none /dev tmpfs rw,nosuid 0 0".toList := Entry.ofLine_eq_ok_iff.mp (by decide +kernel)
  constructor
  · exact sound.mpr (.cons (Entry.ofLine_eq_ok_iff.mp (by decide +kernel)) .nil)
  · refine ((parse_outcomes faultyTable).2.2 _).mpr ⟨_, _, _, .pass "x", faultyLines, ?_, by decide,
      Entry.ofLine_eq_error_iff.mp (by decide +kernel), by decide +kernel⟩
    intro earlier member relevant
    simp only [List.mem_cons, List.not_mem_nil, or_false] at member
    rcases member with rfl | rfl | rfl
    · exact exists_isSpelledBy_iff.mp ⟨_, first⟩
    · exact absurd (.inl (by simp)) relevant
    · exact absurd (.inr rfl) relevant

end Treble.Mount
