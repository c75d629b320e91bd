import Treble.Text.Word

/-!
# Words of texts

A word is a run of word characters that cannot be made longer: what stands on either side of it is no
word character. So a text that is cut at some other character has the words of the two parts.

## Main definitions

* `Text.IsWordAt` — a word stands between what is in front of it and what follows it
* `Text.IsWordOf` — a word stands somewhere in a text

## Main results

* `Text.IsWordAt.eq_of_append_eq` — at most one word begins at a place
* `Text.IsWordAt.length_le` — no word begins within another one
* `Text.isWordOf_append_cons` — the words of a text are those of its parts
-/

namespace Treble.Text

/-- A word stands between a character in front of it, if there is one, and what follows it. -/
structure IsWordAt (previous : Option Char) (word after : List Char) : Prop where
  nonempty : word ≠ []
  chars : ∀ c ∈ word, isWord c = true
  starts : previous.any isWord = false
  ends : after.head?.any isWord = false

/-- A word stands somewhere in a text. -/
def IsWordOf (text word : List Char) : Prop :=
  ∃ before after, text = before ++ (word ++ after) ∧ IsWordAt before.getLast? word after

variable {previous : Option Char} {c : Char} {word other before after behind left right : List Char}

namespace IsWordAt

/-- A word is what can be taken from its place on. -/
theorem takeWhile_append (h : IsWordAt previous word after) :
    (word ++ after).takeWhile isWord = word := by
  rw [List.takeWhile_append_of_pos h.chars]
  have hafter : after.takeWhile isWord = [] := by
    cases after with
    | nil => rfl
    | cons c after => exact List.takeWhile_cons_of_neg (by simpa using h.ends)
  rw [hafter, List.append_nil]

/-- At most one word begins at a place. -/
theorem eq_of_append_eq (h : IsWordAt previous word after) (h' : IsWordAt previous other behind)
    (same : word ++ after = other ++ behind) : word = other := by
  rw [← h.takeWhile_append, same, h'.takeWhile_append]

/-- No word begins within another one. -/
theorem length_le (h : IsWordAt previous word after)
    (h' : IsWordAt (before.getLast?.or previous) other behind) (nonempty : before ≠ [])
    (same : word ++ after = before ++ (other ++ behind)) : word.length ≤ before.length := by
  rcases List.append_eq_append_iff.mp same with ⟨more, rfl, -⟩ | ⟨more, hword, -⟩
  · simp
  -- The last character in front of the other word would be one of this word.
  · have hlast := List.getLast?_eq_some_getLast nonempty
    have hchar := h.chars _ (hword ▸ List.mem_append_left _ (List.getLast_mem nonempty))
    have hstarts := h'.starts
    rw [hlast, Option.some_or, Option.any_some, hchar] at hstarts
    cases hstarts

/-- A character that belongs to no word is like the end of the text in front of a word. -/
theorem or_some_iff (hc : isWord c = false) :
    IsWordAt (previous.or (some c)) word after ↔ IsWordAt previous word after := by
  have hany : (previous.or (some c)).any isWord = previous.any isWord := by
    cases previous with
    | none => exact hc
    | some d => rfl
  constructor
  · exact fun h => ⟨h.nonempty, h.chars, hany ▸ h.starts, h.ends⟩
  · exact fun h => ⟨h.nonempty, h.chars, hany ▸ h.starts, h.ends⟩

/-- And it is like the end of the text behind a word. -/
theorem append_cons_iff (hc : isWord c = false) :
    IsWordAt previous word (after ++ c :: right) ↔ IsWordAt previous word after := by
  have hany : (after ++ c :: right).head?.any isWord = after.head?.any isWord := by
    cases after with
    | nil => exact hc
    | cons d after => rfl
  constructor
  · exact fun h => ⟨h.nonempty, h.chars, h.starts, hany ▸ h.ends⟩
  · exact fun h => ⟨h.nonempty, h.chars, h.starts, hany ▸ h.ends⟩

/-- A character that belongs to no word is not in one. -/
theorem notMem (h : IsWordAt previous word after) (hc : isWord c = false) : c ∉ word :=
  fun hmem => absurd (h.chars c hmem) (by simp [hc])

end IsWordAt

theorem getLast?_append_cons (left : List Char) (c : Char) (right : List Char) :
    (left ++ c :: right).getLast? = right.getLast?.or (some c) := by
  rw [List.getLast?_append, List.getLast?_cons]
  cases right.getLast? <;> rfl

/-- The words of a text are those of the parts on either side of a character that belongs to none. -/
theorem isWordOf_append_cons (hc : isWord c = false) :
    IsWordOf (left ++ c :: right) word ↔ IsWordOf left word ∨ IsWordOf right word := by
  constructor
  · rintro ⟨before, after, hsplit, h⟩
    rcases List.append_eq_append_iff.mp hsplit with ⟨between, rfl, hright⟩ | ⟨between, rfl, hword⟩
    · -- The word does not begin in front of the character, and so it begins behind it.
      cases between with
      | nil =>
        obtain ⟨d, word, rfl⟩ := List.exists_cons_of_ne_nil h.nonempty
        obtain ⟨rfl, -⟩ := List.cons.inj hright
        exact absurd (List.mem_cons_self ..) (h.notMem hc)
      | cons d between =>
        obtain ⟨rfl, rfl⟩ := List.cons.inj hright
        rw [getLast?_append_cons, IsWordAt.or_some_iff hc] at h
        exact .inr ⟨between, after, rfl, h⟩
    · -- The word begins in front of the character, and so it ends there.
      rcases List.append_eq_append_iff.mp hword with ⟨more, rfl, rfl⟩ | ⟨more, rfl, hmore⟩
      · exact .inl ⟨before, more, rfl, (IsWordAt.append_cons_iff hc).mp h⟩
      · cases more with
        | nil =>
          rw [List.nil_append] at hmore
          subst hmore
          rw [List.append_nil] at h ⊢
          exact .inl ⟨before, [], by simp, ⟨h.nonempty, h.chars, h.starts, rfl⟩⟩
        | cons d more =>
          obtain ⟨rfl, -⟩ := List.cons.inj hmore
          exact absurd (by simp) (h.notMem hc)
  · rintro (⟨before, after, rfl, h⟩ | ⟨before, after, rfl, h⟩)
    · exact ⟨before, after ++ c :: right, by simp, (IsWordAt.append_cons_iff hc).mpr h⟩
    · refine ⟨left ++ c :: before, after, by simp, ?_⟩
      rw [getLast?_append_cons, IsWordAt.or_some_iff hc]
      exact h

end Treble.Text
