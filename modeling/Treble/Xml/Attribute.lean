import Treble.Text.Blank
import Treble.Text.Cut
import Treble.Text.Encoding
import Treble.Xml.Fault

/-!
# Attributes

The attributes of a tag are read one after the other: a name, an equals sign and a value between
quotes, with blanks allowed before each. Reading stops at the attribute that is looked for, so
faults behind it do not count.

## Main definitions

* `Xml.Attribute` — a name and the text between the quotes
* `Xml.Attribute.next?` — the first attribute of a text, and what follows it
* `Xml.Attribute.find?` — the value of the first attribute of a name
-/

namespace Treble.Xml

open Text

/-- An attribute: its name and what stands between its quotes. -/
structure Attribute where
  name : List Char
  value : List Char
deriving DecidableEq

namespace Attribute

/-- The characters that end the name of an attribute. -/
def endsName (c : Char) : Bool := c == '=' || isMarkupBlank c

/-- What follows the equals sign of an attribute in a tag of some size. -/
def afterEquals (size : Nat) (text : List Char) : Except AttributeFault (List Char) :=
  match text.dropWhile isMarkupBlank with
  | [] => .error (.equals size)
  | '=' :: rest => .ok rest
  | other => .error (.equals (size - Utf8.size other))

/-- A value between quotes and what follows it. -/
def valueOf (size : Nat) (text : List Char) : Except AttributeFault (List Char × List Char) :=
  match text.dropWhile isMarkupBlank with
  | [] => .error (.value size)
  | c :: rest =>
    if c = '"' ∨ c = '\'' then
      match cut [c] rest with
      | some (value, after) => .ok (value, after)
      | none => .error (.closingQuote size c)
    else .error (.openingQuote (size - Utf8.size (c :: rest)))

/-- The first attribute of the rest of a tag of some size, and what follows it. The first
character of a name may be any but a blank. -/
def next? (size : Nat) (text : List Char) :
    Except AttributeFault (Option (Attribute × List Char)) :=
  match text.dropWhile isMarkupBlank with
  | [] => .ok none
  | first :: rest =>
    -- The first character belongs to the name even where it is an equals sign.
    (afterEquals size (rest.dropWhile fun c => !endsName c)).bind fun afterEquals =>
      (valueOf size afterEquals).map fun (value, after) =>
        some (⟨first :: rest.takeWhile fun c => !endsName c, value⟩, after)

theorem length_le_of_afterEquals {size : Nat} {text rest : List Char}
    (h : afterEquals size text = .ok rest) : rest.length ≤ text.length := by
  have hle := (List.dropWhile_sublist isMarkupBlank (l := text)).length_le
  rw [afterEquals] at h
  split at h <;> simp_all
  omega

theorem length_le_of_valueOf {size : Nat} {text value rest : List Char}
    (h : valueOf size text = .ok (value, rest)) : rest.length ≤ text.length := by
  have hle := (List.dropWhile_sublist isMarkupBlank (l := text)).length_le
  rw [valueOf] at h
  split at h
  · simp at h
  · split at h
    · split at h
      · next hcut =>
        have := congrArg List.length (eq_of_cut hcut)
        simp_all
        omega
      · simp at h
    · simp at h

/-- An attribute takes up some of the text. -/
theorem length_lt_of_next? {size : Nat} {text rest : List Char} {found : Attribute}
    (h : next? size text = .ok (some (found, rest))) : rest.length < text.length := by
  have hle := (List.dropWhile_sublist isMarkupBlank (l := text)).length_le
  rw [next?] at h
  split at h
  · simp at h
  · next first tail heq =>
    have hle' := (List.dropWhile_sublist (fun c => !endsName c) (l := tail)).length_le
    simp only [Except.bind, Except.map] at h
    split at h
    · simp at h
    · next after hafter =>
      have hlen := length_le_of_afterEquals hafter
      split at h
      · simp at h
      · next pair hvalue =>
        obtain ⟨value, last⟩ := pair
        have hlen' := length_le_of_valueOf hvalue
        simp only [Except.ok.injEq, Option.some.injEq, Prod.mk.injEq] at h
        rw [heq] at hle
        simp only [List.length_cons] at hle
        rw [← h.2]
        omega

/-- The value of the first attribute of a name in the rest of a tag of some size. -/
def find? (size : Nat) (name : List Char) (text : List Char) :
    Except AttributeFault (Option (List Char)) :=
  match _h : next? size text with
  | .error fault => .error fault
  | .ok none => .ok none
  | .ok (some (found, rest)) =>
    if found.name = name then .ok (some found.value) else find? size name rest
termination_by text.length
decreasing_by exact length_lt_of_next? _h

end Attribute

end Treble.Xml
