import Treble.Property.Dump
import Treble.Proofs.Text.Cutting
import Treble.Proofs.Text.Lines

/-!
# Dumps are read back

A dump of some entries has a line for each of them, in their order, and other lines in between that
are passed over. Both readers find the entries in it, so that they hold for each name the value of the
last entry with this name. Which entries can be dumped is a matter of the format: in a listing a name
must not hold what stands between name and value, and in a `build.prop` file neither a name nor a
value can have white space at its ends. Values may hold every mark of either format.

## Main definitions

* `Properties.Format` — a format by its lines, by what it passes over and by the entries that fit
* `Properties.Format.IsDump` — a text is a dump of some entries
* `Properties.IsLast` — an entry is the last one with its name
* `Properties.HoldsLast` — properties hold for each name the value of the last entry

## Main results

* `Properties.get?_ofList_eq_some_iff` — of several entries with one name the last one is kept
* `Properties.Format.ReadsBack.filterMap_eq` — a reader finds the entries of a dump
* `Properties.dump_readBack` — both formats are read back, and the two readers agree
-/

namespace Treble.Properties

open Text

/-! ### The last entry -/

/-- An entry is the last one with its name. -/
def IsLast (entries : List (String × String)) (name value : String) : Prop :=
  ∃ before after, entries = before ++ (name, value) :: after ∧ ∀ entry ∈ after, entry.1 ≠ name

/-- Properties hold for each name the value of the last entry with this name, and nothing else. -/
def HoldsLast (entries : List (String × String)) (props : Properties) : Prop :=
  ∀ name value, props.get? name = some value ↔ IsLast entries name value

theorem not_isLast_nil {name value : String} : ¬ IsLast [] name value := by
  rintro ⟨before, after, h, -⟩
  exact List.append_ne_nil_of_right_ne_nil _ (List.cons_ne_nil _ _) h.symm

/-- The last of all entries is the last one with its name, and it takes part in no other name. -/
theorem isLast_concat {entries : List (String × String)} {entry : String × String}
    {name value : String} :
    IsLast (entries ++ [entry]) name value ↔
      if name = entry.1 then value = entry.2 else IsLast entries name value := by
  constructor
  · rintro ⟨before, after, hsplit, hafter⟩
    -- Either the last one of all is meant, or it is among those with another name.
    rcases List.eq_nil_or_concat after with rfl | ⟨front, final, rfl⟩
    · obtain ⟨rfl, hentry⟩ := List.append_inj' hsplit rfl
      obtain rfl := (List.cons.inj hentry).1
      rw [if_pos rfl]
    · rw [List.concat_eq_append, ← List.cons_append, ← List.append_assoc] at hsplit
      obtain ⟨rfl, hentry⟩ := List.append_inj' hsplit rfl
      obtain rfl := (List.cons.inj hentry).1
      rw [List.concat_eq_append, List.forall_mem_append, List.forall_mem_singleton] at hafter
      rw [if_neg (Ne.symm hafter.2)]
      exact ⟨before, front, rfl, hafter.1⟩
  · split_ifs with hname
    · rintro rfl
      subst hname
      exact ⟨entries, [], rfl, by simp⟩
    · rintro ⟨before, after, rfl, hafter⟩
      refine ⟨before, after ++ [entry], by simp, ?_⟩
      rw [List.forall_mem_append, List.forall_mem_singleton]
      exact ⟨hafter, Ne.symm hname⟩

theorem ofList_concat (entries : List (String × String)) (entry : String × String) :
    ofList (entries ++ [entry]) = (ofList entries).insert entry.1 entry.2 := by
  rw [ofList, List.foldl_append, ofList]
  rfl

/-- Of several entries with one name the last one is kept. -/
theorem get?_ofList_eq_some_iff {entries : List (String × String)} {name value : String} :
    (ofList entries).get? name = some value ↔ IsLast entries name value := by
  induction entries using List.reverseRecOn with
  | nil => simp [ofList, not_isLast_nil]
  | append_singleton entries entry ih =>
    rw [ofList_concat, get?_insert, isLast_concat]
    split
    · rw [Option.some.injEq, eq_comm]
    · exact ih

/-! ### Formats -/

/-- A format of dumps: the line of an entry, the lines that are passed over, and the entries that fit. -/
structure Format where
  line : String × String → List Char
  IsAside : List Char → Prop
  Fits : String × String → Prop

/-- An entry that does not go over the end of a line. -/
structure IsUnbroken (entry : String × String) : Prop where
  name : '\n' ∉ entry.1.toList
  value : '\n' ∉ entry.2.toList

instance (entry : String × String) : Decidable (IsUnbroken entry) :=
  decidable_of_iff ('\n' ∉ entry.1.toList ∧ '\n' ∉ entry.2.toList)
    ⟨fun h => ⟨h.1, h.2⟩, fun h => ⟨h.name, h.value⟩⟩

/-- White space that does not end a line. -/
def isInnerBlank (c : Char) : Bool := isBlank c && c != '\n'

namespace Format

variable {format : Format} {entries : List (String × String)}

/-- Some lines list entries: each entry has a line, with white space around it or not, and every other
line is passed over. -/
inductive Lists (format : Format) : List (String × String) → List (List Char) → Prop
  | nil : Lists format [] []
  | aside {entries line lines} (unbroken : '\n' ∉ line) (aside : format.IsAside line)
      (rest : Lists format entries lines) : Lists format entries (line :: lines)
  | entry {entry entries line lines} (padded : IsPadded isInnerBlank (format.line entry) line)
      (rest : Lists format entries lines) : Lists format (entry :: entries) (line :: lines)

/-- A text is a dump of some entries. Whether a line feed ends it is a matter of a last line that is
empty. -/
def IsDump (format : Format) (entries : List (String × String)) (text : String) : Prop :=
  ∃ lines, format.Lists entries lines ∧ text.toList = List.intercalate ['\n'] lines

/-- The plain dump of some entries. -/
def print (format : Format) (entries : List (String × String)) : String :=
  String.ofList (entries.flatMap fun entry => format.line entry ++ ['\n'])

/-- A reader of lines that finds the entries of a format, whatever white space stands around them. -/
structure ReadsBack (format : Format) (read : List Char → Option (String × String)) : Prop where
  blind : ∀ line other, strip isBlank line = strip isBlank other → read line = read other
  entry : ∀ entry, format.Fits entry → read (format.line entry) = some entry
  aside : ∀ line, format.IsAside line → read line = none
  empty : format.IsAside []
  unbroken : ∀ entry, IsUnbroken entry → '\n' ∉ format.line entry

/-- The plain dump is a dump. -/
theorem isDump_print (hempty : format.IsAside []) (entries : List (String × String)) :
    format.IsDump entries (format.print entries) := by
  refine ⟨entries.map format.line ++ [[]], ?_, ?_⟩
  · induction entries with
    | nil => exact .aside (by simp) hempty .nil
    | cons entry entries ih => exact .entry (.refl _ _) ih
  · rw [print, String.toList_ofList]
    induction entries with
    | nil => rfl
    | cons entry entries ih =>
      have nonempty : entries.map format.line ++ [[]] ≠ [] := by simp
      rw [List.flatMap_cons, ih, List.map_cons, List.cons_append,
        List.intercalate_cons_of_ne_nil nonempty, List.append_assoc]

namespace ReadsBack

variable {read : List Char → Option (String × String)} {pieces : List (List Char)}

theorem notMem_of_lists (reads : format.ReadsBack read)
    (unbroken : ∀ entry ∈ entries, IsUnbroken entry) (lists : format.Lists entries pieces) :
    ∀ line ∈ pieces, '\n' ∉ line := by
  induction lists with
  | nil => simp
  | aside hline _ _ ih => exact List.forall_mem_cons.mpr ⟨hline, ih unbroken⟩
  | entry padded _ ih =>
    rw [List.forall_mem_cons] at unbroken
    have hline := padded.notMem (by decide) (reads.unbroken _ unbroken.1)
    exact List.forall_mem_cons.mpr ⟨hline, ih unbroken.2⟩

/-- The entries are found in the lines that list them. -/
theorem filterMap_eq (reads : format.ReadsBack read) (fits : ∀ entry ∈ entries, format.Fits entry)
    (lists : format.Lists entries pieces) : pieces.filterMap read = entries := by
  -- Each line is read on its own: an aside adds nothing, and the line of an entry adds the entry.
  induction lists with
  | nil => rfl
  | aside _ aside _ ih => rw [List.filterMap_cons_none (reads.aside _ aside), ih fits]
  | entry padded _ ih =>
    rw [List.forall_mem_cons] at fits
    have blank : IsPadded isBlank _ _ := padded.imp fun c hc => (Bool.and_eq_true_iff.mp hc).1
    have hread := (reads.blind _ _ blank.strip_eq).trans (reads.entry _ fits.1)
    rw [List.filterMap_cons_some hread, ih fits.2]

/-- The entries are found in a dump. -/
theorem filterMap_lines_eq (reads : format.ReadsBack read)
    (unbroken : ∀ entry ∈ entries, IsUnbroken entry) (fits : ∀ entry ∈ entries, format.Fits entry)
    {text : String} (dump : format.IsDump entries text) :
    (lines text.toList).filterMap read = entries := by
  obtain ⟨pieces, lists, htext⟩ := dump
  rw [htext, filterMap_lines_intercalate (reads.aside _ reads.empty)
    (fun line _ => reads.blind _ _ (strip_chompReturn line)) (reads.notMem_of_lists unbroken lists),
    reads.filterMap_eq fits lists]

end ReadsBack

end Format

/-! ### The two formats -/

/-- A comment begins with a number sign, behind white space or not. -/
def IsComment (line : List Char) : Prop :=
  ∃ front rest, (∀ c ∈ front, isBlank c = true) ∧ line = front ++ '#' :: rest

/-- An entry of a `build.prop` file. White space at the ends of a name or a value would be lost, an
equals sign would end the name, and a number sign at the front would make a comment of it. -/
structure FitsBuildProp (entry : String × String) : Prop where
  name : IsStripped isBlank entry.1.toList
  value : IsStripped isBlank entry.2.toList
  noEquals : '=' ∉ entry.1.toList
  noHash : entry.1.toList.head? ≠ some '#'

instance (entry : String × String) : Decidable (FitsBuildProp entry) :=
  decidable_of_iff (IsStripped isBlank entry.1.toList ∧ IsStripped isBlank entry.2.toList ∧
      '=' ∉ entry.1.toList ∧ entry.1.toList.head? ≠ some '#')
    ⟨fun h => ⟨h.1, h.2.1, h.2.2.1, h.2.2.2⟩, fun h => ⟨h.name, h.value, h.noEquals, h.noHash⟩⟩

/-- The listing of the property service. -/
def Format.listing : Format where
  line := listingLine
  IsAside line := ¬ "]: [".toList <:+: line
  Fits entry := ¬ "]: [".toList <:+: entry.1.toList

/-- The format of `build.prop` files. -/
def Format.buildProp : Format where
  line := buildPropLine
  IsAside line := IsComment line ∨ '=' ∉ line
  Fits := FitsBuildProp

theorem isStripped_listingLine (entry : String × String) :
    IsStripped isBlank (listingLine entry) where
  head := by
    have hopen : isBlank '[' = false := by decide
    simpa [listingLine] using hopen
  last := by
    have hclose : isBlank ']' = false := by decide
    rw [listingLine, List.getLast?_concat]
    exact hclose

/-- A listing is cut behind the name, unless the name holds the mark. -/
theorem listingEntry?_listingLine {entry : String × String}
    (fits : ¬ "]: [".toList <:+: entry.1.toList) :
    listingEntry? (listingLine entry) = some entry := by
  have hcut : cut "]: [".toList (listingLine entry) =
      some ('[' :: entry.1.toList, entry.2.toList ++ [']']) := by
    -- The bracket in front of the name begins no mark, so that one would be within the name.
    have free : ¬ "]: [".toList <:+: '[' :: entry.1.toList := by
      rw [List.infix_cons_iff, not_or]
      exact ⟨fun h => absurd (List.cons_prefix_cons.mp h).1 (by decide), fits⟩
    have hlast : '[' ∉ "]: ".toList := by decide
    have hfound := cut_append hlast free (entry.2.toList ++ [']'])
    rw [← hfound, listingLine]
    simp
  unfold listingEntry?
  rw [(isStripped_listingLine entry).strip_eq, hcut]
  simp

theorem readsBack_listing : Format.listing.ReadsBack listingEntry? where
  blind line other same := by
    unfold listingEntry?
    rw [same]
  entry _ fits := listingEntry?_listingLine fits
  aside line aside := by
    unfold listingEntry?
    rw [cut_eq_none fun within => aside (within.trans (strip_isInfix isBlank line))]
  empty := by simp [Format.listing]
  unbroken entry unbroken := by
    simp [Format.listing, listingLine, unbroken.name, unbroken.value]

theorem isStripped_buildPropLine {entry : String × String} (fits : FitsBuildProp entry) :
    IsStripped isBlank (buildPropLine entry) where
  head := by
    have hname := fits.name.head
    have hequals : isBlank '=' = false := by decide
    rw [buildPropLine]
    cases hchars : entry.1.toList with
    | nil => simpa using hequals
    | cons c rest => simpa [hchars] using hname
  last := by
    have hvalue := fits.value.last
    have hequals : isBlank '=' = false := by decide
    rw [buildPropLine, List.getLast?_append_cons]
    cases hchars : entry.2.toList with
    | nil => simpa using hequals
    | cons c rest => simpa [hchars] using hvalue

/-- Where a line is no comment, its entry is cut at the first equals sign. -/
theorem buildPropEntry?_eq_map {line : List Char} (noComment : (strip isBlank line).head? ≠ some '#') :
    buildPropEntry? line = (cut ['='] (strip isBlank line)).map fun (name, value) =>
      (String.ofList (strip isBlank name), String.ofList (strip isBlank value)) := by
  unfold buildPropEntry?
  split
  · next hempty =>
    -- There is nothing to cut in an empty line either.
    rw [hempty]
    rfl
  · next hcomment =>
    rw [hcomment] at noComment
    exact absurd rfl noComment
  · rfl

/-- The first equals sign of a line is that behind the name. -/
theorem buildPropEntry?_buildPropLine {entry : String × String} (fits : FitsBuildProp entry) :
    buildPropEntry? (buildPropLine entry) = some entry := by
  have hcut : cut ['='] (buildPropLine entry) = some (entry.1.toList, entry.2.toList) := by
    have free : ¬ [] ++ ['='] <:+: entry.1.toList := by
      rw [List.nil_append, List.singleton_infix_iff]
      exact fits.noEquals
    have hfound := cut_append List.not_mem_nil free entry.2.toList
    rw [← hfound, buildPropLine]
    simp
  have noComment : (buildPropLine entry).head? ≠ some '#' := by
    have noHash := fits.noHash
    rw [buildPropLine]
    cases hchars : entry.1.toList with
    | nil => simp
    | cons c rest => simpa [hchars] using noHash
  have hstrip := (isStripped_buildPropLine fits).strip_eq
  rw [buildPropEntry?_eq_map (by rwa [hstrip]), hstrip, hcut]
  simp only [Option.map_some, fits.name.strip_eq, fits.value.strip_eq, String.ofList_toList]

theorem buildPropEntry?_of_isComment {line : List Char} (comment : IsComment line) :
    buildPropEntry? line = none := by
  obtain ⟨front, rest, hfront, rfl⟩ := comment
  have hhash : isBlank '#' = false := by decide
  obtain ⟨tail, -, hsplit⟩ := exists_stripEnd_append isBlank ('#' :: rest)
  unfold buildPropEntry?
  rw [strip, List.dropWhile_append_of_pos hfront,
    dropWhile_of_head? (by simpa using hhash)]
  -- What is stripped from the end is white space, so that the number sign is still in front.
  cases hcore : stripEnd isBlank ('#' :: rest) with
  | nil => rfl
  | cons c core =>
    rw [hcore] at hsplit
    obtain rfl := (List.cons.inj hsplit).1
    rfl

theorem buildPropEntry?_of_notMem {line : List Char} (free : '=' ∉ line) :
    buildPropEntry? line = none := by
  unfold buildPropEntry?
  split
  · rfl
  · rfl
  · have within : ¬ ['='] <:+: strip isBlank line := by
      rw [List.singleton_infix_iff]
      exact fun h => free ((strip_isInfix isBlank line).subset h)
    rw [cut_eq_none within, Option.map_none]

theorem readsBack_buildProp : Format.buildProp.ReadsBack buildPropEntry? where
  blind line other same := by
    unfold buildPropEntry?
    rw [same]
  entry _ fits := buildPropEntry?_buildPropLine fits
  aside _ aside := aside.elim buildPropEntry?_of_isComment buildPropEntry?_of_notMem
  empty := .inr List.not_mem_nil
  unbroken entry unbroken := by
    simp [Format.buildProp, buildPropLine, unbroken.name, unbroken.value]

/-! ### Both readers -/

section Readers

variable {entries : List (String × String)} {text : String}

/-- A listing gives the entries that are in it. -/
theorem ofListing_eq (unbroken : ∀ entry ∈ entries, IsUnbroken entry)
    (fits : ∀ entry ∈ entries, Format.listing.Fits entry)
    (dump : Format.listing.IsDump entries text) : ofListing text = ofList entries := by
  rw [ofListing, readsBack_listing.filterMap_lines_eq unbroken fits dump]

/-- A `build.prop` file gives the entries that are in it. -/
theorem ofBuildProp_eq (unbroken : ∀ entry ∈ entries, IsUnbroken entry)
    (fits : ∀ entry ∈ entries, Format.buildProp.Fits entry)
    (dump : Format.buildProp.IsDump entries text) : ofBuildProp text = ofList entries := by
  rw [ofBuildProp, readsBack_buildProp.filterMap_lines_eq unbroken fits dump]

end Readers

theorem holdsLast_ofList (entries : List (String × String)) : HoldsLast entries (ofList entries) :=
  fun _ _ => get?_ofList_eq_some_iff

/-- Entries that do not go over the end of a line are read back from their dumps. A listing takes every
entry whose name does not hold the mark between name and value, and a `build.prop` file takes every
entry without white space at the ends of its name and its value, without an equals sign in the name and
without a number sign in front. Either reader holds the value of the last entry for each name and
nothing else, and where both formats take the entries, the readers agree. -/
theorem dump_readBack (entries : List (String × String))
    (unbroken : ∀ entry ∈ entries, IsUnbroken entry) :
    ((∀ entry ∈ entries, Format.listing.Fits entry) → ∀ text,
      Format.listing.IsDump entries text → HoldsLast entries (ofListing text)) ∧
    ((∀ entry ∈ entries, Format.buildProp.Fits entry) → ∀ text,
      Format.buildProp.IsDump entries text → HoldsLast entries (ofBuildProp text)) ∧
    ((∀ entry ∈ entries, Format.listing.Fits entry ∧ Format.buildProp.Fits entry) →
      ∀ listing file, Format.listing.IsDump entries listing → Format.buildProp.IsDump entries file →
        ofListing listing = ofBuildProp file) := by
  refine ⟨?_, ?_, ?_⟩
  · intro fits text dump
    rw [ofListing_eq unbroken fits dump]
    exact holdsLast_ofList entries
  · intro fits text dump
    rw [ofBuildProp_eq unbroken fits dump]
    exact holdsLast_ofList entries
  · intro fits listing file inListing inFile
    rw [ofListing_eq unbroken (fun entry h => (fits entry h).1) inListing,
      ofBuildProp_eq unbroken (fun entry h => (fits entry h).2) inFile]

/-- Entries with the marks of both formats in their values, one name twice and an empty value. -/
def markedEntries : List (String × String) := [("ro.a", "1=2"), ("ro.b", ""), ("ro.a", "x]: [y=")]

/-- A file with these entries, two comments, a line without an entry, indentation and a carriage
return. -/
def markedFile : String := "# ro.a=0\n\n  ro.a=1=2\nro.c\nro.b=\r\n\t#\n\tro.a=x]: [y="

theorem dump_readBack_markedEntries :
    HoldsLast markedEntries (ofListing (Format.listing.print markedEntries)) ∧
    HoldsLast markedEntries (ofBuildProp markedFile) ∧
    ofListing (Format.listing.print markedEntries) = ofBuildProp markedFile ∧
    (ofBuildProp markedFile).get? "ro.a" = some "x]: [y=" := by
  have unbroken : ∀ entry ∈ markedEntries, IsUnbroken entry := by decide
  have inListing : ∀ entry ∈ markedEntries, ¬ "]: [".toList <:+: entry.1.toList := by decide
  have inFile : ∀ entry ∈ markedEntries, FitsBuildProp entry := by decide
  have listing : Format.listing.IsDump markedEntries (Format.listing.print markedEntries) :=
    Format.isDump_print readsBack_listing.empty markedEntries
  have file : Format.buildProp.IsDump markedEntries markedFile := by
    refine ⟨["# ro.a=0".toList, [], "  ro.a=1=2".toList, "ro.c".toList, "ro.b=\r".toList,
      "\t#".toList, "\tro.a=x]: [y=".toList], ?_, by decide⟩
    refine .aside (by decide) (.inl ⟨[], _, by simp, rfl⟩) (.aside (by decide) (.inr (by decide)) ?_)
    refine .entry ⟨"  ".toList, [], List.all_eq_true.mp rfl, by simp, rfl⟩ ?_
    refine .aside (by decide) (.inr (by decide)) ?_
    refine .entry ⟨[], ['\r'], by simp, List.all_eq_true.mp rfl, rfl⟩ ?_
    refine .aside (by decide) (.inl ⟨['\t'], _, List.all_eq_true.mp rfl, rfl⟩) ?_
    exact .entry ⟨['\t'], [], List.all_eq_true.mp rfl, by simp, rfl⟩ .nil
  obtain ⟨ofListed, ofFile, same⟩ := dump_readBack markedEntries unbroken
  have held := ofFile inFile markedFile file
  refine ⟨ofListed inListing _ listing, held, ?_, ?_⟩
  · exact same (fun entry h => ⟨inListing entry h, inFile entry h⟩) _ _ listing file
  · exact (held "ro.a" "x]: [y=").mpr ⟨[("ro.a", "1=2"), ("ro.b", "")], [], rfl, by simp⟩

end Treble.Properties
