import Treble.Text.Blank

/-!
# What stripping leaves

A text is stripped of a class of characters if it has none of them at its ends. In every text there is
one stripped text with nothing but characters of the class on either side, and that is what stripping
leaves.

## Main definitions

* `Text.IsStripped` — a text with no character of a class at its ends
* `Text.IsPadded` — a text in which another one stands between characters of a class

## Main results

* `Text.strip_eq_iff` — what stripping leaves is stripped, and the rest is padding
-/

namespace Treble.Text

variable {inClass : Char → Bool} {text core : List Char}

/-- A text that neither begins nor ends with a character of a class. -/
structure IsStripped (inClass : Char → Bool) (text : List Char) : Prop where
  head : text.head?.any inClass = false
  last : text.getLast?.any inClass = false

instance (inClass : Char → Bool) (text : List Char) : Decidable (IsStripped inClass text) :=
  decidable_of_iff (text.head?.any inClass = false ∧ text.getLast?.any inClass = false)
    ⟨fun h => ⟨h.1, h.2⟩, fun h => ⟨h.head, h.last⟩⟩

/-- A text in which another one stands between characters of a class. -/
def IsPadded (inClass : Char → Bool) (core text : List Char) : Prop :=
  ∃ front back, (∀ c ∈ front, inClass c = true) ∧ (∀ c ∈ back, inClass c = true) ∧
    text = front ++ core ++ back

theorem isStripped_of_forall (h : ∀ c ∈ text, inClass c = false) : IsStripped inClass text where
  head := (Option.any_eq_false _ _).mpr fun c hc => h c (List.mem_of_head? hc)
  last := (Option.any_eq_false _ _).mpr fun c hc => h c (List.mem_of_getLast? hc)

theorem IsPadded.refl (inClass : Char → Bool) (text : List Char) : IsPadded inClass text text :=
  ⟨[], [], by simp, by simp, by simp⟩

/-- Padding of a class is padding of a greater class. -/
theorem IsPadded.imp {other : Char → Bool} (h : ∀ c, inClass c = true → other c = true)
    (padded : IsPadded inClass core text) : IsPadded other core text := by
  obtain ⟨front, back, hfront, hback, htext⟩ := padded
  exact ⟨front, back, fun c hc => h c (hfront c hc), fun c hc => h c (hback c hc), htext⟩

theorem IsPadded.append {tail : List Char} (padded : IsPadded inClass core text)
    (htail : ∀ c ∈ tail, inClass c = true) : IsPadded inClass core (text ++ tail) := by
  obtain ⟨front, back, hfront, hback, rfl⟩ := padded
  exact ⟨front, back ++ tail, hfront, List.forall_mem_append.mpr ⟨hback, htail⟩, by simp⟩

/-- Padding brings in no character outside the class. -/
theorem IsPadded.notMem {c : Char} (padded : IsPadded inClass core text) (hc : inClass c = false)
    (free : c ∉ core) : c ∉ text := by
  obtain ⟨front, back, hfront, hback, rfl⟩ := padded
  have outside : ¬ inClass c = true := by simp [hc]
  simp only [List.mem_append, not_or]
  exact ⟨⟨fun h => outside (hfront c h), free⟩, fun h => outside (hback c h)⟩

theorem any_head?_dropWhile (inClass : Char → Bool) (text : List Char) :
    (text.dropWhile inClass).head?.any inClass = false := by
  induction text with
  | nil => rfl
  | cons c rest ih =>
    cases hc : inClass c with
    | true => rwa [List.dropWhile_cons_of_pos hc]
    | false => simp [hc]

theorem dropWhile_of_head? (h : text.head?.any inClass = false) :
    text.dropWhile inClass = text := by
  cases text with
  | nil => rfl
  | cons c rest => exact List.dropWhile_cons_of_neg (by simpa using h)

/-- What a text begins with behind characters of a class, where that is no character of the class. -/
theorem head?_dropWhile_eq_some_iff {c : Char} (hc : inClass c = false) :
    (text.dropWhile inClass).head? = some c ↔
      ∃ front rest, (∀ d ∈ front, inClass d = true) ∧ text = front ++ c :: rest := by
  constructor
  · intro h
    obtain ⟨rest, hrest⟩ := List.head?_eq_some_iff.mp h
    refine ⟨text.takeWhile inClass, rest, fun d hd => ?_, ?_⟩
    · exact List.all_eq_true.mp List.all_takeWhile d hd
    · rw [← hrest, List.takeWhile_append_dropWhile]
  · rintro ⟨front, rest, hfront, rfl⟩
    rw [List.dropWhile_append_of_pos hfront, dropWhile_of_head? (by simpa using hc)]
    rfl

theorem stripEnd_of_getLast? (h : text.getLast?.any inClass = false) :
    stripEnd inClass text = text := by
  rw [stripEnd, dropWhile_of_head? (by rwa [List.head?_reverse]), List.reverse_reverse]

/-- From a stripped text nothing is stripped. -/
theorem IsStripped.strip_eq (stripped : IsStripped inClass text) : strip inClass text = text := by
  rw [strip, dropWhile_of_head? stripped.head, stripEnd_of_getLast? stripped.last]

theorem isStripped_strip (inClass : Char → Bool) (text : List Char) :
    IsStripped inClass (strip inClass text) where
  head := by
    obtain ⟨tail, -, hsplit⟩ := exists_stripEnd_append inClass (text.dropWhile inClass)
    have hhead := any_head?_dropWhile inClass text
    rw [strip]
    cases hcore : stripEnd inClass (text.dropWhile inClass) with
    | nil => rfl
    | cons c core => rwa [hsplit, hcore] at hhead
  last := by
    rw [strip, stripEnd, List.getLast?_reverse]
    exact any_head?_dropWhile ..

theorem isPadded_strip (inClass : Char → Bool) (text : List Char) :
    IsPadded inClass (strip inClass text) text := by
  obtain ⟨back, hback, hsplit⟩ := exists_stripEnd_append inClass (text.dropWhile inClass)
  refine ⟨text.takeWhile inClass, back, fun c hc => ?_, hback, ?_⟩
  · exact List.all_eq_true.mp List.all_takeWhile c hc
  · rw [List.append_assoc, strip, ← hsplit, List.takeWhile_append_dropWhile]

/-- Stripping the end leaves the front as it is. -/
theorem head?_strip (inClass : Char → Bool) (text : List Char) :
    (strip inClass text).head? = (text.dropWhile inClass).head? := by
  have hhead := any_head?_dropWhile inClass text
  obtain ⟨tail, htail, hsplit⟩ := exists_stripEnd_append inClass (text.dropWhile inClass)
  rw [strip]
  cases hcore : stripEnd inClass (text.dropWhile inClass) with
  | cons c core => rw [hsplit, hcore, List.cons_append, List.head?_cons, List.head?_cons]
  | nil =>
    -- Then all of the text is of the class.
    rw [hcore, List.nil_append] at hsplit
    rw [hsplit] at hhead ⊢
    cases tail with
    | nil => rfl
    | cons c tail => simp [htail c (by simp)] at hhead

/-- What is left of a text is a piece of it. -/
theorem strip_isInfix (inClass : Char → Bool) (text : List Char) : strip inClass text <:+: text := by
  obtain ⟨front, back, -, -, htext⟩ := isPadded_strip inClass text
  exact ⟨front, back, htext.symm⟩

/-- Padding is stripped. -/
theorem IsPadded.strip_eq (padded : IsPadded inClass core text) :
    strip inClass text = strip inClass core := by
  obtain ⟨front, back, hfront, hback, rfl⟩ := padded
  rw [strip_append_of_all _ hback, strip, List.dropWhile_append_of_pos hfront, strip]

/-- What stripping leaves is stripped, and the rest is padding. -/
theorem strip_eq_iff :
    strip inClass text = core ↔ IsStripped inClass core ∧ IsPadded inClass core text := by
  constructor
  · rintro rfl
    exact ⟨isStripped_strip .., isPadded_strip ..⟩
  · rintro ⟨stripped, padded⟩
    rw [padded.strip_eq, stripped.strip_eq]

end Treble.Text
