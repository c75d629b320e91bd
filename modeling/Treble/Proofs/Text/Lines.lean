import Mathlib.Data.List.Basic
import Treble.Proofs.Text.Stripping
import Treble.Text.Cut

/-!
# What is read of the lines of a text

A reader that takes what it wants from each line, and nothing from an empty one, cannot tell how the
lines end: by a line feed alone, with a carriage return in front of it, or with the text.

## Main definitions

* `Text.IsMadeOf` — a text is made of some lines

## Main results

* `Text.filterMap_lines` — such a reader sees what stands between the line feeds
* `Text.filterMap_lines_intercalate` — it sees the lines that a text is made of
* `Text.IsMadeOf.filterMap_eq`, `Text.IsMadeOf.any_eq` — so it is whether a line feed ends the text or not
-/

namespace Treble.Text

variable {α : Type} {read : List Char → Option α}

/-- The carriage return that belongs to the end of a line is white space. -/
theorem strip_chompReturn (line : List Char) :
    strip isBlank (chompReturn line) = strip isBlank line := by
  rw [chompReturn]
  split
  · next hreturn =>
    obtain ⟨front, rfl⟩ := List.getLast?_eq_some_iff.mp hreturn
    rw [List.dropLast_concat, strip_append_of_all]
    simp only [List.mem_singleton, forall_eq]
    decide
  · rfl

/-- A reader that is blind to the ends of the lines of a text and to empty lines sees what stands
between the line feeds. -/
theorem filterMap_lines (hempty : read [] = none) {text : List Char}
    (hreturn : ∀ piece ∈ text.splitOn '\n', read (chompReturn piece) = read piece) :
    (lines text).filterMap read = (text.splitOn '\n').filterMap read := by
  rcases List.eq_nil_or_concat (text.splitOn '\n') with hnil | ⟨front, final, hsplit⟩
  · exact absurd hnil (List.splitOn_ne_nil _ _)
  rw [List.concat_eq_append] at hsplit
  have hended : (front.map chompReturn).filterMap read = front.filterMap read := by
    rw [List.filterMap_map]
    exact List.filterMap_congr fun piece hpiece => hreturn piece (by simp [hsplit, hpiece])
  simp only [lines, hsplit, List.dropLast_concat, List.getLast?_concat, List.filterMap_append]
  cases final with
  | nil => simp [hended, hempty]
  | cons c rest => rw [List.filterMap_append, hended]

/-- Such a reader sees the lines that a text is made of. -/
theorem filterMap_lines_intercalate (hempty : read [] = none) {pieces : List (List Char)}
    (hreturn : ∀ piece ∈ pieces, read (chompReturn piece) = read piece)
    (unbroken : ∀ piece ∈ pieces, '\n' ∉ piece) :
    (lines (List.intercalate ['\n'] pieces)).filterMap read = pieces.filterMap read := by
  cases pieces with
  | nil => simp [lines]
  | cons piece rest =>
    have hsplit := List.splitOn_intercalate _ unbroken (List.cons_ne_nil _ _)
    rw [filterMap_lines hempty (by rwa [hsplit]), hsplit]

/-! ### Texts of lines -/

/-- A text is made of some lines: there is a line feed between any two of them, and behind the last one
or not. -/
def IsMadeOf (pieces : List (List Char)) (text : List Char) : Prop :=
  (∀ piece ∈ pieces, '\n' ∉ piece) ∧
    (text = List.intercalate ['\n'] pieces ∨ text = List.intercalate ['\n'] (pieces ++ [[]]))

namespace IsMadeOf

variable {pieces : List (List Char)} {text : List Char}

theorem filterMap_eq (made : IsMadeOf pieces text) (hempty : read [] = none)
    (hreturn : ∀ piece, read (chompReturn piece) = read piece) :
    (lines text).filterMap read = pieces.filterMap read := by
  obtain ⟨unbroken, rfl | rfl⟩ := made
  · exact filterMap_lines_intercalate hempty (fun piece _ => hreturn piece) unbroken
  · have ended : ∀ piece ∈ pieces ++ [[]], '\n' ∉ piece :=
      List.forall_mem_append.mpr ⟨unbroken, by simp⟩
    rw [filterMap_lines_intercalate hempty (fun piece _ => hreturn piece) ended]
    simp [hempty]

theorem any_eq {p : List Char → Bool} (made : IsMadeOf pieces text) (hempty : p [] = false)
    (hreturn : ∀ piece, p (chompReturn piece) = p piece) : (lines text).any p = pieces.any p := by
  let found (line : List Char) : Option Unit := if p line then some () else none
  have hfound : ∀ list : List (List Char), (list.filterMap found).any (fun _ => true) = list.any p := by
    intro list
    rw [List.any_filterMap]
    congr 1
    funext line
    cases hp : p line <;> simp [found, hp]
  have hread : (lines text).filterMap found = pieces.filterMap found :=
    made.filterMap_eq (by simp [found, hempty]) fun piece => by simp only [found, hreturn piece]
  rw [← hfound, hread, hfound]

end IsMadeOf

end Treble.Text
