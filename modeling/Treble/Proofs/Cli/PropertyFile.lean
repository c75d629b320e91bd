import Treble.Cli.Run
import Treble.Proofs.Property.Dump
import Treble.Text.Encoding.RoundTrip

/-!
# How a property file is recognised

A property file is a `build.prop` file or a listing of the property service, and a single line that
begins with a bracket makes a listing of it, be the line an entry or not. So a file without an entry of a
listing is read as a `build.prop` file as long as no line of it begins with a bracket. With such a line
nothing is read of it at all, neither of this line nor of any other.

## Main definitions

* `Properties.Bracketed` — some line of a text begins with a bracket
* `Properties.Unlisted`, `Properties.Unassigned` — no line of a text is an entry of the one format, or of the
  other
* `Properties.AddsLine` — a text has one more line than another one

## Main results

* `Properties.ofDump_of_unlisted` — what is read of a dump without entries of a listing
* `Properties.AddsLine.ofDump_eq_iff` — when a line without an entry makes no difference to such a dump
* `Cli.properties_unlisted` — both for the properties that a command is given
-/

namespace Treble

namespace Properties

open Text

variable {text other : String} {line : List Char}

/-- A line begins with an opening bracket, behind white space or not. -/
def BeginsWithBracket (line : List Char) : Prop :=
  ∃ front rest, (∀ c ∈ front, isBlank c = true) ∧ line = front ++ '[' :: rest

/-- A text has one line more than another text, and otherwise the same lines in the same order. -/
def AddsLine (line : List Char) (text other : String) : Prop :=
  ∃ before after, IsMadeOf (before ++ after) text.toList ∧
    IsMadeOf (before ++ line :: after) other.toList

/-- No line of a text is an entry of a listing. -/
def Unlisted (text : String) : Prop := ∀ line ∈ lines text.toList, listingEntry? line = none

/-- No line of a text is an entry of a `build.prop` file. -/
def Unassigned (text : String) : Prop := ∀ line ∈ lines text.toList, buildPropEntry? line = none

/-- Some line of a text begins with a bracket. -/
def Bracketed (text : String) : Prop := ∃ line ∈ lines text.toList, BeginsWithBracket line

instance (text : String) : Decidable (Unlisted text) := inferInstanceAs (Decidable (∀ _ ∈ _, _))

instance (text : String) : Decidable (Unassigned text) := inferInstanceAs (Decidable (∀ _ ∈ _, _))

/-! ### Brackets -/

theorem head?_dropWhile_beq_iff :
    ((line.dropWhile isBlank).head? == some '[') = true ↔ BeginsWithBracket line := by
  rw [beq_iff_eq, head?_dropWhile_eq_some_iff (by decide), BeginsWithBracket]

/-- A text is taken for a listing iff some line begins with a bracket. -/
theorem isListing_iff : isListing text = true ↔ Bracketed text := by
  simp only [isListing, List.any_eq_true, head?_dropWhile_beq_iff, Bracketed]

/-! ### Dumps without entries of a listing -/

theorem ofListing_of_unlisted (unlisted : Unlisted text) : ofListing text = ∅ := by
  rw [ofListing, List.filterMap_eq_nil_iff.mpr unlisted]
  rfl

/-- Nothing is read of a `build.prop` file iff none of its lines is an entry. -/
theorem ofBuildProp_eq_empty_iff : ofBuildProp text = ∅ ↔ Unassigned text := by
  rw [ofBuildProp, Unassigned, ← List.filterMap_eq_nil_iff]
  constructor
  · intro h
    -- The last entry would be found.
    by_contra hsome
    obtain ⟨front, entry, hentries⟩ := List.eq_nil_or_concat _ |>.resolve_left hsome
    rw [hentries, List.concat_eq_append, ofList_concat] at h
    have hget := congrArg (·.get? entry.1) h
    simp at hget
  · intro h
    rw [h]
    rfl

/-- Of a dump without entries of a listing nothing is read where a line begins with a bracket. Otherwise
it is read as a `build.prop` file. -/
theorem ofDump_of_unlisted (unlisted : Unlisted text) :
    (Bracketed text → ofDump text = ∅) ∧ (¬ Bracketed text → ofDump text = ofBuildProp text) := by
  constructor
  · intro bracketed
    rw [ofDump, if_pos (isListing_iff.mpr bracketed), ofListing_of_unlisted unlisted]
  · intro plain
    rw [ofDump, if_neg (mt isListing_iff.mp plain)]

/-- So it is read as a `build.prop` file iff no line begins with a bracket, or there is nothing to
read. -/
theorem ofDump_eq_ofBuildProp_iff (unlisted : Unlisted text) :
    ofDump text = ofBuildProp text ↔ (Bracketed text → Unassigned text) := by
  obtain ⟨hidden, read⟩ := ofDump_of_unlisted unlisted
  rw [← ofBuildProp_eq_empty_iff]
  by_cases bracketed : Bracketed text
  · rw [hidden bracketed, eq_comm]
    simp [bracketed]
  · simp [read bracketed, bracketed]

/-! ### One more line -/

namespace AddsLine

/-- A reader of either format finds the same entries in both texts, if the further line is none. -/
theorem filterMap_eq {format : Format} {read : List Char → Option (String × String)}
    (adds : AddsLine line text other) (reads : format.ReadsBack read) (noEntry : read line = none) :
    (lines other.toList).filterMap read = (lines text.toList).filterMap read := by
  obtain ⟨before, after, made, otherMade⟩ := adds
  have hempty : read [] = none := reads.aside _ reads.empty
  have hreturn (piece : List Char) : read (chompReturn piece) = read piece :=
    reads.blind _ _ (strip_chompReturn piece)
  rw [made.filterMap_eq hempty hreturn, otherMade.filterMap_eq hempty hreturn,
    List.filterMap_append, List.filterMap_cons_none noEntry, ← List.filterMap_append]

/-- Whether a line begins with a bracket is a matter of each line, wherever it stands. -/
theorem bracketed_iff (adds : AddsLine line text other) :
    Bracketed other ↔ Bracketed text ∨ BeginsWithBracket line := by
  obtain ⟨before, after, made, otherMade⟩ := adds
  have hreturn (piece : List Char) : (((chompReturn piece).dropWhile isBlank).head? == some '[') =
      ((piece.dropWhile isBlank).head? == some '[') := by
    rw [← head?_strip, strip_chompReturn, head?_strip]
  rw [← isListing_iff, ← isListing_iff, isListing, isListing, made.any_eq rfl hreturn,
    otherMade.any_eq rfl hreturn, ← head?_dropWhile_beq_iff]
  simp only [List.any_append, List.any_cons, Bool.or_eq_true]
  tauto

/-- A line that is no entry of either format makes no difference to a dump without entries of a listing,
unless it is the first line that begins with a bracket and there is something that it hides. -/
theorem ofDump_eq_iff (adds : AddsLine line text other) (unlisted : Unlisted text)
    (noListed : listingEntry? line = none) (noAssigned : buildPropEntry? line = none) :
    ofDump other = ofDump text ↔ (BeginsWithBracket line → Bracketed text ∨ Unassigned text) := by
  have otherUnlisted : Unlisted other := by
    rw [Unlisted, ← List.filterMap_eq_nil_iff, adds.filterMap_eq readsBack_listing noListed]
    exact List.filterMap_eq_nil_iff.mpr unlisted
  have same : ofBuildProp other = ofBuildProp text := by
    rw [ofBuildProp, ofBuildProp, adds.filterMap_eq readsBack_buildProp noAssigned]
  obtain ⟨hidden, read⟩ := ofDump_of_unlisted unlisted
  obtain ⟨otherHidden, otherRead⟩ := ofDump_of_unlisted otherUnlisted
  rw [adds.bracketed_iff] at otherHidden otherRead
  by_cases bracketed : Bracketed text
  · simp [hidden bracketed, otherHidden (.inl bracketed), bracketed]
  by_cases begins : BeginsWithBracket line
  · -- The file was read as it is, and now nothing is.
    rw [otherHidden (.inr begins), read bracketed, eq_comm, ofBuildProp_eq_empty_iff]
    simp [begins, bracketed]
  · rw [otherRead (by simp [bracketed, begins]), read bracketed, same]
    simp [begins]

end AddsLine

end Properties

namespace Cli

open Properties (AddsLine BeginsWithBracket Bracketed Unassigned Unlisted)
open Text

/-- What a command is given of a property file in which no line is an entry of a listing. It gets nothing
if a line begins with a bracket, and the properties of a `build.prop` file otherwise. A further line that
is no entry of either format makes no difference, unless it is the first one that begins with a bracket
and there is something that it hides. -/
theorem properties_unlisted {options : Options} {path : String} (named : options.props = some path)
    {world : World} {text : String} (reads : world.files.readText path = .ok text)
    (unlisted : Unlisted text) :
    (Bracketed text → properties world options = .ok ∅) ∧
    (properties world options = .ok (Properties.ofBuildProp text) ↔
      (Bracketed text → Unassigned text)) ∧
    ∀ line other, AddsLine line text other →
      Properties.listingEntry? line = none → Properties.buildPropEntry? line = none →
      ∀ extended : World, extended.files.readText path = .ok other →
        (properties extended options = properties world options ↔
          (BeginsWithBracket line → Bracketed text ∨ Unassigned text)) := by
  have given {world : World} {text : String} (reads : world.files.readText path = .ok text) :
      properties world options = .ok (Properties.ofDump text) := by
    simp only [properties, named, reads]
  refine ⟨fun bracketed => ?_, ?_, ?_⟩
  · rw [given reads, (Properties.ofDump_of_unlisted unlisted).1 bracketed]
  · rw [given reads, Except.ok.injEq]
    exact Properties.ofDump_eq_ofBuildProp_iff unlisted
  · intro line other adds noListed noAssigned extended otherReads
    rw [given reads, given otherReads, Except.ok.injEq]
    exact adds.ofDump_eq_iff unlisted noListed noAssigned

/-! ### A file with a section mark -/

/-- A file that assigns a property. -/
def assigningFile : String := "ro.boot.dynamic_partitions=true\n"

/-- The same file with a comment. -/
def commentedFile : String := "# [partitions]\nro.boot.dynamic_partitions=true\n"

/-- The same file with the mark of a section, which is an entry of neither format. -/
def sectionedFile : String := "[partitions]\nro.boot.dynamic_partitions=true\n"

/-- Surroundings with a property file and an empty mount table. -/
def withPropertyFile (text : String) : World where
  files path :=
    if path = "build.prop" then .ok (.file (.ok (Utf8.encode text.toList)))
    else if path = "mounts" then .ok (.file (.ok []))
    else .error .notFound
  environment _ := none
  listing := none
  library _ := .missing

/-- Options that name this property file. -/
def namingOptions : Options := { props := "build.prop" }

theorem readText_withPropertyFile (text : String) :
    (withPropertyFile text).files.readText "build.prop" = .ok text := by
  simp [FileSystem.readText, FileSystem.read, FileSystem.Entry.content, withPropertyFile, Except.bind]

/-- A comment may be added to a file. -/
theorem properties_unlisted_commented :
    Unlisted assigningFile ∧ AddsLine "# [partitions]".toList assigningFile commentedFile ∧
    properties (withPropertyFile assigningFile) namingOptions =
      .ok (Properties.ofBuildProp assigningFile) ∧
    properties (withPropertyFile commentedFile) namingOptions =
      properties (withPropertyFile assigningFile) namingOptions := by
  have unlisted : Unlisted assigningFile := by decide
  have adds : AddsLine "# [partitions]".toList assigningFile commentedFile :=
    ⟨[], ["ro.boot.dynamic_partitions=true".toList], ⟨by decide, .inr (by decide)⟩,
      ⟨by decide, .inr (by decide)⟩⟩
  have plain : ¬ Bracketed assigningFile := by
    rw [← Properties.isListing_iff]
    decide
  have noBracket : ¬ BeginsWithBracket "# [partitions]".toList := by
    rw [← Properties.head?_dropWhile_beq_iff]
    decide
  have named : namingOptions.props = some "build.prop" := rfl
  obtain ⟨-, read, added⟩ := properties_unlisted named
    (readText_withPropertyFile assigningFile) unlisted
  refine ⟨unlisted, adds, read.mpr fun h => absurd h plain, ?_⟩
  exact (added _ _ adds (by decide) (by decide) _ (readText_withPropertyFile commentedFile)).mpr
    fun h => absurd h noBracket

/-- The mark of a section is no entry of either format, and yet it hides the property behind it. -/
theorem properties_sectionedFile :
    Unlisted sectionedFile ∧ AddsLine "[partitions]".toList assigningFile sectionedFile ∧
    Properties.buildPropEntry? "[partitions]".toList = none ∧
    properties (withPropertyFile sectionedFile) namingOptions ≠
      .ok (Properties.ofBuildProp sectionedFile) ∧
    (run (withPropertyFile assigningFile)
      ["sar", "--props", "build.prop", "--mounts", "mounts"]).stdout =
        "System-as-root: yes\nDynamic partitions: yes\n" ∧
    (run (withPropertyFile sectionedFile)
      ["sar", "--props", "build.prop", "--mounts", "mounts"]).stdout =
        "System-as-root: yes\nDynamic partitions: unknown\n" := by
  have adds : AddsLine "[partitions]".toList assigningFile sectionedFile :=
    ⟨[], ["ro.boot.dynamic_partitions=true".toList], ⟨by decide, .inr (by decide)⟩,
      ⟨by decide, .inr (by decide)⟩⟩
  have hidden : properties (withPropertyFile sectionedFile) namingOptions ≠
      .ok (Properties.ofBuildProp sectionedFile) := by
    decide +kernel
  exact ⟨by decide, adds, by decide, hidden, by decide +kernel, by decide +kernel⟩

end Cli

end Treble
