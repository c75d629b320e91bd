import Mathlib.Data.List.Infix
import Treble.Text.Cut

/-!
# Where texts are cut

A text is cut where a separator occurs first or last in it, and it is not cut where the separator does
not occur. In front of a separator that ends with a character of its own there may be any text
without the separator: the two together do not make an occurrence farther in front.

## Main definitions

* `Text.LastCut` — the parts in front of and behind the last occurrence of a text
* `Text.Splits` — the pieces between the occurrences of a character

## Main results

* `Text.cut_replace` — what follows the separator may be replaced
* `Text.cut_append` — a separator is found behind a text that is free of it
* `Text.cut_eq_none` — a text without the separator cannot be cut
* `Text.cutLast_eq_some_iff` — a text is cut at the last occurrence of the separator
* `Text.splitOn_eq_iff` — a text is split at all occurrences of a character
-/

namespace Treble.Text

/-! ### The first occurrence -/

theorem cut_append_self (separator rest : List Char) :
    cut separator (separator ++ rest) = some ([], rest) := by
  cases htext : separator ++ rest with
  | nil =>
    obtain ⟨rfl, rfl⟩ := List.append_eq_nil_iff.mp htext
    rfl
  | cons c tail =>
    rw [cut, ← htext, if_pos (List.isPrefixOf_iff_prefix.mpr (List.prefix_append ..)),
      List.drop_left]

/-- What follows a separator has no say in where it occurs first. -/
theorem cut_replace {separator text before after : List Char}
    (h : cut separator text = some (before, after)) (rest : List Char) :
    cut separator (before ++ separator ++ rest) = some (before, rest) := by
  induction text generalizing before with
  | nil =>
    cases separator with
    | nil =>
      simp only [cut, List.isEmpty_nil, if_true, Option.some.injEq, Prod.mk.injEq] at h
      obtain ⟨rfl, rfl⟩ := h
      exact cut_append_self [] rest
    | cons => simp [cut] at h
  | cons c text ih =>
    rw [cut] at h
    split at h
    · simp only [Option.some.injEq, Prod.mk.injEq] at h
      obtain ⟨rfl, rfl⟩ := h
      exact cut_append_self separator rest
    · next hprefix =>
      obtain ⟨shorter, hcut, rfl⟩ := exists_of_map_cons h
      -- A separator at the front would end no later than the one that was found, so that it would
      -- have been found in the other text too.
      have hfront : ¬ separator.isPrefixOf (c :: (shorter ++ separator ++ rest)) = true := by
        intro hfront
        rw [List.isPrefixOf_iff_prefix] at hprefix hfront
        have hlength : separator.length ≤ (c :: (shorter ++ separator)).length := by
          simp
          omega
        have hwithin : separator <+: c :: (shorter ++ separator) :=
          List.prefix_of_prefix_length_le hfront (List.prefix_append _ rest) hlength
        rw [eq_of_cut hcut] at hprefix
        exact hprefix (hwithin.trans (List.prefix_append _ after))
      rw [List.cons_append, List.cons_append, cut, if_neg hfront, ih hcut]
      rfl

/-- A separator that ends with a character found nowhere else in it cannot begin in a text in front of
another one of it, unless it is within the text. -/
theorem not_prefix_append {mark text : List Char} {last : Char} (hlast : last ∉ mark)
    (nonempty : text ≠ []) (free : ¬ mark ++ [last] <:+: text) (rest : List Char) :
    ¬ mark ++ [last] <+: text ++ (mark ++ rest) := by
  intro h
  rcases List.prefix_or_prefix_of_prefix h (List.prefix_append text _) with within | ⟨more, hmore⟩
  · exact free within.isInfix
  rcases List.eq_nil_or_concat more with rfl | ⟨front, d, rfl⟩
  · rw [List.append_nil] at hmore
    exact free (hmore ▸ List.infix_refl _)
  · -- What is left of the separator behind the text would be a part of what it ends with.
    rw [List.concat_eq_append] at hmore
    obtain ⟨-, hd⟩ := List.append_inj' ((List.append_assoc ..).trans hmore) rfl
    rw [← hmore, List.prefix_append_right_inj] at h
    have hlength : (front ++ [d]).length ≤ mark.length := by
      have htotal := congrArg List.length hmore
      have hpositive := List.length_pos_iff.mpr nonempty
      simp only [List.length_append, List.length_singleton] at htotal ⊢
      omega
    have hpart := List.prefix_of_prefix_length_le h (List.prefix_append mark rest) hlength
    have hmem : d ∈ mark := hpart.subset (by simp)
    rw [(List.cons.inj hd).1] at hmem
    exact hlast hmem

/-- Such a separator is found where it stands, if it is not within what stands in front of it. -/
theorem cut_append {mark before : List Char} {last : Char} (hlast : last ∉ mark)
    (free : ¬ mark ++ [last] <:+: before) (rest : List Char) :
    cut (mark ++ [last]) (before ++ (mark ++ [last]) ++ rest) = some (before, rest) := by
  induction before with
  | nil => exact cut_append_self (mark ++ [last]) rest
  | cons c before ih =>
    have hfront : ¬ (mark ++ [last]).isPrefixOf (c :: (before ++ (mark ++ [last]) ++ rest)) = true := by
      have hnot := not_prefix_append hlast (List.cons_ne_nil c before) free ([last] ++ rest)
      rw [List.isPrefixOf_iff_prefix]
      simpa using hnot
    have within : ¬ mark ++ [last] <:+: before := fun h => free (List.infix_cons h)
    rw [List.cons_append, List.cons_append, cut, if_neg hfront, ih within]
    rfl

/-- A text without the separator cannot be cut. -/
theorem cut_eq_none {separator text : List Char} (free : ¬ separator <:+: text) :
    cut separator text = none := by
  by_contra h
  obtain ⟨⟨before, after⟩, hcut⟩ := Option.ne_none_iff_exists'.mp h
  exact free ⟨before, after, (eq_of_cut hcut).symm⟩

/-! ### The last occurrence -/

/-- A text cannot be cut iff the separator does not occur in it. -/
theorem cutLast_eq_none_iff {separator text : List Char} :
    cutLast separator text = none ↔ ¬ separator <:+: text := by
  induction text with
  | nil => cases separator <;> simp [cutLast]
  | cons c rest ih =>
    rw [cutLast, List.infix_cons_iff]
    cases hcut : cutLast separator rest with
    | some pieces =>
      -- The separator occurs in the rest, so the text is cut there.
      have hrest : separator <:+: rest := by
        by_contra h
        simp [ih.mpr h] at hcut
      simp [hrest]
    | none =>
      have hrest : ¬ separator <:+: rest := ih.mp hcut
      by_cases hp : separator <+: c :: rest
      · simp [List.isPrefixOf_iff_prefix.mpr hp, hp]
      · have hp' : separator.isPrefixOf (c :: rest) = false := by
          rw [Bool.eq_false_iff]
          exact fun h => hp (List.isPrefixOf_iff_prefix.mp h)
        simp [hp', hp, hrest]

/-- The parts of a text in front of and behind the last occurrence of a separator. -/
structure LastCut (separator text before after : List Char) : Prop where
  split : text = before ++ separator ++ after
  last : ∀ front back, text = front ++ separator ++ back → front.length ≤ before.length

namespace LastCut

variable {separator text before after : List Char}

/-- There is one last occurrence. -/
theorem unique {front back : List Char} (cut : LastCut separator text before after)
    (other : LastCut separator text front back) : before = front ∧ after = back := by
  have hlength : before.length = front.length :=
    Nat.le_antisymm (other.last before after cut.split) (cut.last front back other.split)
  have hsame : before ++ (separator ++ after) = front ++ (separator ++ back) := by
    rw [← List.append_assoc, ← cut.split, other.split, List.append_assoc]
  obtain ⟨hbefore, hrest⟩ := List.append_inj hsame hlength
  exact ⟨hbefore, List.append_cancel_left hrest⟩

/-- What a text ends with is the last occurrence in it. -/
theorem of_end (separator before : List Char) :
    LastCut separator (before ++ separator) before [] := by
  refine ⟨(List.append_nil _).symm, fun front back h => ?_⟩
  have hlength := congrArg List.length h
  simp only [List.length_append] at hlength
  omega

/-- A character is last where it does not occur behind. -/
theorem of_notMem {c : Char} (before : List Char) {after : List Char} (free : c ∉ after) :
    LastCut [c] (before ++ [c] ++ after) before after := by
  refine ⟨rfl, fun front back h => ?_⟩
  rw [List.append_assoc, List.append_assoc] at h
  rcases List.append_eq_append_iff.mp h with ⟨more, rfl, hmore⟩ | ⟨more, rfl, -⟩
  · cases more with
    | nil => simp
    | cons d more =>
      obtain ⟨-, rfl⟩ := List.cons.inj hmore
      exact absurd (by simp) free
  · simp

end LastCut

variable {separator text before after : List Char}

theorem lastCut_of_cutLast (h : cutLast separator text = some (before, after)) :
    LastCut separator text before after := by
  induction text generalizing before with
  | nil =>
    cases separator with
    | nil =>
      obtain ⟨rfl, rfl⟩ := Prod.mk.inj (Option.some.inj h)
      exact .of_end [] []
    | cons => cases h
  | cons c rest ih =>
    rw [cutLast] at h
    cases hrest : cutLast separator rest with
    | some pieces =>
      rw [hrest] at h
      obtain ⟨rfl, rfl⟩ := Prod.mk.inj (Option.some.inj h)
      have cut := ih hrest
      refine ⟨congrArg (c :: ·) cut.split, fun front back h => ?_⟩
      cases front with
      | nil => exact Nat.zero_le _
      | cons _ front => exact Nat.succ_le_succ (cut.last front back (List.cons.inj h).2)
    | none =>
      have absent := cutLast_eq_none_iff.mp hrest
      simp only [hrest] at h
      split_ifs at h with hprefix
      obtain ⟨rfl, rfl⟩ := Prod.mk.inj (Option.some.inj h)
      obtain ⟨tail, htail⟩ := List.isPrefixOf_iff_prefix.mp hprefix
      refine ⟨by rw [← htail, List.drop_left, List.nil_append], fun front back h => ?_⟩
      -- An occurrence farther back would be one in the rest.
      cases front with
      | nil => exact Nat.zero_le _
      | cons _ front => exact absurd ⟨front, back, (List.cons.inj h).2.symm⟩ absent

/-- A text is cut at the last occurrence of the separator. -/
theorem cutLast_eq_some_iff :
    cutLast separator text = some (before, after) ↔ LastCut separator text before after := by
  refine ⟨lastCut_of_cutLast, fun cut => ?_⟩
  cases hcut : cutLast separator text with
  | none => exact absurd ⟨before, after, cut.split.symm⟩ (cutLast_eq_none_iff.mp hcut)
  | some pieces =>
    obtain ⟨rfl, rfl⟩ := cut.unique (lastCut_of_cutLast hcut)
    rfl

/-! ### All occurrences of a character -/

/-- The pieces between the occurrences of a character in a text. There is one more than there are
occurrences, and any of them may be empty. -/
structure Splits (c : Char) (text : List Char) (pieces : List (List Char)) : Prop where
  nonempty : pieces ≠ []
  free : ∀ piece ∈ pieces, c ∉ piece
  joined : text = List.intercalate [c] pieces

/-- Splitting leaves no occurrence of the character. -/
theorem notMem_of_mem_splitOn {c : Char} {text piece : List Char} (h : piece ∈ text.splitOn c) :
    c ∉ piece := by
  induction text generalizing piece with
  | nil =>
    rw [List.splitOn_nil, List.mem_singleton] at h
    simp [h]
  | cons d rest ih =>
    rw [List.splitOn_cons_eq_if_modifyHead] at h
    split at h
    · rcases List.mem_cons.mp h with rfl | h
      · exact List.not_mem_nil
      · exact ih h
    · next hne =>
      -- The character in front belongs to the first piece of the rest.
      cases hrest : rest.splitOn c with
      | nil => exact absurd hrest (List.splitOn_ne_nil _ _)
      | cons first others =>
        rw [hrest] at h ih
        rcases List.mem_cons.mp h with rfl | h
        · have hfirst := ih (List.mem_cons_self ..)
          simp only [beq_iff_eq] at hne
          simp [Ne.symm hne, hfirst]
        · exact ih (List.mem_cons_of_mem _ h)

/-- A text is split into these pieces. -/
theorem splitOn_eq_iff {c : Char} {text : List Char} {pieces : List (List Char)} :
    text.splitOn c = pieces ↔ Splits c text pieces := by
  constructor
  · rintro rfl
    exact ⟨List.splitOn_ne_nil _ _, fun _ => notMem_of_mem_splitOn, (List.intercalate_splitOn c).symm⟩
  · intro splits
    rw [splits.joined, List.splitOn_intercalate c splits.free splits.nonempty]

/-- Joining brings in nothing but what stands between the pieces. -/
theorem notMem_intercalate {c d : Char} (other : c ≠ d) {pieces : List (List Char)}
    (free : ∀ piece ∈ pieces, c ∉ piece) : c ∉ List.intercalate [d] pieces := by
  induction pieces with
  | nil => simp
  | cons piece rest ih =>
    rw [List.forall_mem_cons] at free
    rcases eq_or_ne rest [] with rfl | hrest
    · simpa using free.1
    · rw [List.intercalate_cons_of_ne_nil hrest]
      simp [free.1, other, ih free.2]

end Treble.Text
