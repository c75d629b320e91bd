import Treble.Text.CodeRanges

/-!
# Blank characters and stripping

Two notions of blank occur: the Unicode property White_Space, by which version tokens, property
dumps and element texts are trimmed, and the four characters that separate the parts of markup.

## Main definitions

* `isBlank` — Unicode white space
* `isMarkupBlank` — space, tab, carriage return and line feed
* `strip` — a text without the characters of a class at both ends
* `trim` — a string without Unicode white space at both ends
-/

namespace Treble.Text

/-- The code points with the Unicode property White_Space. -/
def blankRanges : CodeRanges :=
  [(0x09, 0x0D), (0x20, 0x20), (0x85, 0x85), (0xA0, 0xA0), (0x1680, 0x1680), (0x2000, 0x200A),
   (0x2028, 0x2029), (0x202F, 0x202F), (0x205F, 0x205F), (0x3000, 0x3000)]

/-- Unicode white space. -/
def isBlank (c : Char) : Bool := blankRanges.covers c

/-- The characters that separate the parts of markup. -/
def isMarkupBlank (c : Char) : Bool := c == ' ' || c == '\t' || c == '\r' || c == '\n'

/-- A text without its final characters of a class. -/
def stripEnd (inClass : Char → Bool) (text : List Char) : List Char :=
  (text.reverse.dropWhile inClass).reverse

/-- A text without the characters of a class at both ends. -/
def strip (inClass : Char → Bool) (text : List Char) : List Char :=
  stripEnd inClass (text.dropWhile inClass)

/-- A string without the white space at both ends. -/
def trim (text : String) : String := String.ofList (strip isBlank text.toList)

@[simp] theorem strip_nil (inClass : Char → Bool) : strip inClass [] = [] := rfl

theorem isBlank_of_isMarkupBlank {c : Char} (h : isMarkupBlank c = true) : isBlank c = true := by
  simp only [isMarkupBlank, Bool.or_eq_true, beq_iff_eq] at h
  rcases h with ((rfl | rfl) | rfl) | rfl <;> decide

/-! ### Stripping twice -/

section Strip

variable {inClass other : Char → Bool}

theorem stripEnd_append_of_all (text : List Char) {tail : List Char}
    (h : ∀ c ∈ tail, inClass c = true) :
    stripEnd inClass (text ++ tail) = stripEnd inClass text := by
  rw [stripEnd, List.reverse_append, List.dropWhile_append_of_pos, stripEnd]
  intro c hc
  exact h c (List.mem_reverse.mp hc)

/-- What is stripped from the end anyway may be there or not. -/
theorem strip_append_of_all (text : List Char) {tail : List Char}
    (h : ∀ c ∈ tail, inClass c = true) : strip inClass (text ++ tail) = strip inClass text := by
  rw [strip, List.dropWhile_append]
  split
  · next hempty =>
    have htail : tail.dropWhile inClass = [] := by
      rw [← List.append_nil tail, List.dropWhile_append_of_pos h]
      rfl
    rw [htail, strip, List.isEmpty_iff.mp hempty]
  · rw [stripEnd_append_of_all _ h, strip]

theorem dropWhile_dropWhile_of_imp (h : ∀ c, other c = true → inClass c = true)
    (text : List Char) : (text.dropWhile other).dropWhile inClass = text.dropWhile inClass := by
  induction text with
  | nil => rfl
  | cons c rest ih =>
    cases hc : other c with
    | true => simp [hc, h c hc, ih]
    | false => simp [hc]

theorem exists_stripEnd_append (inClass : Char → Bool) (text : List Char) :
    ∃ tail, (∀ c ∈ tail, inClass c = true) ∧ text = stripEnd inClass text ++ tail := by
  refine ⟨(text.reverse.takeWhile inClass).reverse, ?_, ?_⟩
  · intro c hc
    exact List.all_eq_true.mp List.all_takeWhile c (List.mem_reverse.mp hc)
  · rw [stripEnd, ← List.reverse_append, List.takeWhile_append_dropWhile, List.reverse_reverse]

/-- Stripping part of a class first makes no difference. -/
theorem strip_strip_of_imp (h : ∀ c, other c = true → inClass c = true) (text : List Char) :
    strip inClass (strip other text) = strip inClass text := by
  have hfront : strip inClass (text.dropWhile other) = strip inClass text := by
    rw [strip, dropWhile_dropWhile_of_imp h, strip]
  obtain ⟨tail, htail, hsplit⟩ := exists_stripEnd_append other (text.dropWhile other)
  calc strip inClass (strip other text)
      = strip inClass (stripEnd other (text.dropWhile other) ++ tail) := by
        rw [strip_append_of_all _ fun c hc => h c (htail c hc)]
        rfl
    _ = strip inClass text := by rw [← hsplit, hfront]

end Strip

/-- Without the white space at its ends a string has none there. -/
@[simp] theorem trim_trim (text : String) : trim (trim text) = trim text := by
  rw [trim, trim, String.toList_ofList, strip_strip_of_imp fun _ h => h]

/-- White space is stripped from a text whether its markup blanks are or not. -/
@[simp] theorem trim_strip (text : List Char) :
    trim (String.ofList (strip isMarkupBlank text)) = trim (String.ofList text) := by
  rw [trim, String.toList_ofList, strip_strip_of_imp fun _ => isBlank_of_isMarkupBlank, trim,
    String.toList_ofList]

end Treble.Text
