/-!
# Cutting texts apart

A text is cut at the first or at the last place where another text occurs, and into lines.

## Main definitions

* `cut` — the texts before and after the first occurrence of a separator
* `cutLast` — the same for the last occurrence
* `lines` — the lines of a text, without their ends
-/

namespace Treble.Text

/-- What stands before and after the first occurrence of a separator. -/
def cut (separator : List Char) : List Char → Option (List Char × List Char)
  | [] => if separator.isEmpty then some ([], []) else none
  | c :: rest =>
    if separator.isPrefixOf (c :: rest) then some ([], (c :: rest).drop separator.length)
    else (cut separator rest).map fun (before, after) => (c :: before, after)

/-- What stands before and after the last occurrence of a separator. -/
def cutLast (separator : List Char) : List Char → Option (List Char × List Char)
  | [] => if separator.isEmpty then some ([], []) else none
  | c :: rest =>
    match cutLast separator rest with
    | some (before, after) => some (c :: before, after)
    | none =>
      if separator.isPrefixOf (c :: rest) then some ([], (c :: rest).drop separator.length)
      else none

/-- A line without the carriage return in front of its line feed. -/
def chompReturn (line : List Char) : List Char :=
  if line.getLast? = some '\r' then line.dropLast else line

/-- The lines of a text. A line feed, with a carriage return in front of it if there is one, ends
a line; what follows the last line feed is a line of its own unless it is empty. -/
def lines (text : List Char) : List (List Char) :=
  let pieces := text.splitOn '\n'
  let ended := pieces.dropLast.map chompReturn
  match pieces.getLast? with
  | some (c :: rest) => ended ++ [c :: rest]
  | _ => ended

/-- What is cut off with one character more in front was cut off without it. -/
theorem exists_of_map_cons {c : Char} {pieces : Option (List Char × List Char)}
    {before after : List Char}
    (h : (pieces.map fun (before, after) => (c :: before, after)) = some (before, after)) :
    ∃ shorter, pieces = some (shorter, after) ∧ before = c :: shorter := by
  obtain ⟨⟨shorter, after'⟩, hpieces, hpair⟩ := Option.map_eq_some_iff.mp h
  simp only [Prod.mk.injEq] at hpair
  obtain ⟨rfl, rfl⟩ := hpair
  exact ⟨shorter, hpieces, rfl⟩

/-- Cutting loses the separator and nothing else. -/
theorem eq_of_cut {separator text before after : List Char}
    (h : cut separator text = some (before, after)) : text = before ++ separator ++ after := by
  induction text generalizing before with
  | nil =>
    cases separator <;> simp_all [cut]
  | cons c rest ih =>
    rw [cut] at h
    split at h
    · next hp =>
      obtain ⟨tail, ht⟩ := List.isPrefixOf_iff_prefix.mp hp
      simp only [Option.some.injEq, Prod.mk.injEq] at h
      obtain ⟨rfl, rfl⟩ := h
      rw [← ht]
      simp
    · obtain ⟨shorter, hcut, rfl⟩ := exists_of_map_cons h
      simp [ih hcut]

end Treble.Text
