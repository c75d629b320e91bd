import Treble.Property
import Treble.Text.Blank
import Treble.Text.Cut

/-!
# Property dumps

A dump is a list of properties in text form. Two formats are read: `build.prop` files with lines
`name=value`, and the listing of the property service with lines `[name]: [value]`. Of several
lines for one name the last one holds, and lines of any other form are passed over.

## Main definitions

* `Properties` — values by name, in ascending order of the names
* `Properties.insert`, `Properties.get?` — setting and reading a property
* `Properties.ofBuildProp`, `Properties.ofListing` — the two formats
* `Properties.buildPropLine`, `Properties.listingLine` — the lines of an entry in them
* `Properties.ofDump` — the format that the lines of a dump show

## Main results

* `Properties.get?_insert` — a property that is set is read back, and no other one changes
-/

namespace Treble

/-- Values of properties, in ascending order of the names. -/
structure Properties where
  entries : List (String × String)
  ascending : entries.Pairwise fun e f => e.1 < f.1
deriving DecidableEq

namespace Properties

/-- No property is set. -/
def empty : Properties := ⟨[], .nil⟩

instance : EmptyCollection Properties := ⟨empty⟩

instance : Inhabited Properties := ⟨empty⟩

/-- How many properties are set. -/
def size (props : Properties) : Nat := props.entries.length

/-- Whether no property is set. -/
def isEmpty (props : Properties) : Bool := props.entries.isEmpty

/-- The value of a property. -/
def get? (props : Properties) (name : String) : Option String := props.entries.lookup name

/-- The properties as a store. -/
def store (props : Properties) : PropertyStore := props.get?

/-- Puts a value in its place among entries in ascending order. -/
def place (name value : String) : List (String × String) → List (String × String)
  | [] => [(name, value)]
  | (other, kept) :: rest =>
    if name < other then (name, value) :: (other, kept) :: rest
    else if name = other then (name, value) :: rest
    else (other, kept) :: place name value rest

theorem mem_place {name value : String} {entry : String × String}
    {entries : List (String × String)} (h : entry ∈ place name value entries) :
    entry = (name, value) ∨ entry ∈ entries := by
  induction entries with
  | nil => simpa [place] using h
  | cons first rest ih =>
    rw [place] at h
    split at h
    · simpa using h
    · split at h
      · rcases List.mem_cons.mp h with rfl | hmem
        · exact .inl rfl
        · exact .inr (List.mem_cons_of_mem _ hmem)
      · rcases List.mem_cons.mp h with rfl | hmem
        · exact .inr (List.mem_cons_self ..)
        · exact (ih hmem).imp_right (List.mem_cons_of_mem _)

theorem pairwise_place {name value : String} {entries : List (String × String)}
    (h : entries.Pairwise fun e f => e.1 < f.1) :
    (place name value entries).Pairwise fun e f => e.1 < f.1 := by
  induction entries with
  | nil => simp [place]
  | cons first rest ih =>
    rw [List.pairwise_cons] at h
    rw [place]
    split
    · next hlt =>
      refine List.pairwise_cons.mpr ⟨fun entry hentry => ?_, List.pairwise_cons.mpr h⟩
      rcases List.mem_cons.mp hentry with rfl | hmem
      · exact hlt
      · exact String.lt_trans hlt (h.1 entry hmem)
    · next hlt =>
      split
      · next heq =>
        subst heq
        exact List.pairwise_cons.mpr ⟨h.1, h.2⟩
      · next hne =>
        refine List.pairwise_cons.mpr ⟨fun entry hentry => ?_, ih h.2⟩
        rcases mem_place hentry with rfl | hmem
        · exact Std.lt_of_le_of_ne (String.not_lt.mp hlt) (Ne.symm hne)
        · exact h.1 entry hmem

/-- Sets a property. -/
def insert (props : Properties) (name value : String) : Properties :=
  ⟨place name value props.entries, pairwise_place props.ascending⟩

/-- Unsets a property. -/
def erase (props : Properties) (name : String) : Properties :=
  ⟨props.entries.filter fun entry => entry.1 != name, props.ascending.filter _⟩

/-- Sets properties in turn. -/
def ofList (entries : List (String × String)) : Properties :=
  entries.foldl (fun props entry => props.insert entry.1 entry.2) ∅

theorem lookup_cons {name key value : String} {rest : List (String × String)} :
    ((key, value) :: rest).lookup name = if name = key then some value else rest.lookup name := by
  by_cases h : name = key
  · subst h
    simp
  · have hne : (name == key) = false := beq_eq_false_iff_ne.mpr h
    simp [List.lookup_cons, hne, h]

theorem lookup_place {name value other : String} {entries : List (String × String)} :
    (place name value entries).lookup other =
      if other = name then some value else entries.lookup other := by
  induction entries with
  | nil => simp only [place, lookup_cons]
  | cons first rest ih =>
    obtain ⟨key, kept⟩ := first
    rw [place]
    split
    · simp [lookup_cons]
    · split
      · next heq => subst heq; simp only [lookup_cons]; split <;> rfl
      · next hne => grind [lookup_cons]

/-- A property that is set is read back, and no other one changes. -/
@[simp] theorem get?_insert {props : Properties} {name value other : String} :
    (props.insert name value).get? other =
      if other = name then some value else props.get? other := lookup_place

@[simp] theorem get?_empty (name : String) : (∅ : Properties).get? name = none := rfl

open Text

/-- The entry of a line `name=value`. Comments and lines without an equals sign have none, and
white space around the name and around the value is not part of them. -/
def buildPropEntry? (line : List Char) : Option (String × String) :=
  match strip isBlank line with
  | [] => none
  | '#' :: _ => none
  | content =>
    (cut ['='] content).map fun (name, value) =>
      (String.ofList (strip isBlank name), String.ofList (strip isBlank value))

/-- The entry of a line `[name]: [value]`. What stands between the brackets is taken as it is. -/
def listingEntry? (line : List Char) : Option (String × String) :=
  match cut "]: [".toList (strip isBlank line) with
  | some ('[' :: name, value) =>
    if value.getLast? = some ']' then
      some (String.ofList name, String.ofList value.dropLast)
    else none
  | _ => none

/-- The line `name=value` of an entry. -/
def buildPropLine (entry : String × String) : List Char :=
  entry.1.toList ++ '=' :: entry.2.toList

/-- The line `[name]: [value]` of an entry. -/
def listingLine (entry : String × String) : List Char :=
  '[' :: entry.1.toList ++ "]: [".toList ++ entry.2.toList ++ [']']

/-- The properties of a `build.prop` file. -/
def ofBuildProp (text : String) : Properties :=
  ofList ((lines text.toList).filterMap buildPropEntry?)

/-- The properties of a listing of the property service. -/
def ofListing (text : String) : Properties :=
  ofList ((lines text.toList).filterMap listingEntry?)

/-- A text is taken for a listing when some line begins with a bracket. -/
def isListing (text : String) : Bool :=
  (lines text.toList).any fun line => (line.dropWhile isBlank).head? == some '['

/-- The properties of a dump in either format. -/
def ofDump (text : String) : Properties :=
  if isListing text then ofListing text else ofBuildProp text

end Properties

end Treble
