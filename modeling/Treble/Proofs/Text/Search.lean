import Treble.Proofs.Text.Words
import Treble.Text.Pattern

/-!
# Patterns that are words

The ways to match a pattern are those that its parts allow, whatever is preferred. A pattern may be such
that all that it matches are words. There is at most one way to match it from a place on then, and no
match begins within another one, so that a search finds each word of the form that the pattern
describes.

## Main definitions

* `Pattern.Place.Reads` — a text stands between two places
* `Pattern.Matches` — a pattern allows a text between two places
* `Pattern.FindsWords` — what a pattern allows are words of some form

## Main results

* `Pattern.mem_ways_iff` — the ways to match a pattern are those that it allows
* `Pattern.FindsWords.mem_search_iff` — a search finds the words of the form in a text
-/

namespace Treble.Text.Pattern

/-- A text stands between two places, in which the groups have matched some texts. -/
structure Place.Reads (place : Place) (text : List Char) (told : List (List Char)) (behind : Place) :
    Prop where
  ahead : place.ahead = text ++ behind.ahead
  previous : behind.previous = text.getLast?.or place.previous
  groups : behind.groups = place.groups ++ told

namespace Place.Reads

variable {place middle behind other : Place} {text more : List Char} {told tail : List (List Char)}

/-- Nothing stands between a place and itself. -/
theorem refl (place : Place) : place.Reads [] [] place := ⟨rfl, rfl, (List.append_nil _).symm⟩

/-- Two texts stand one behind the other. -/
theorem trans (h : place.Reads text told middle) (h' : middle.Reads more tail behind) :
    place.Reads (text ++ more) (told ++ tail) behind where
  ahead := by rw [h.ahead, h'.ahead, List.append_assoc]
  previous := by rw [h'.previous, h.previous, List.getLast?_append, Option.or_assoc]
  groups := by rw [h'.groups, h.groups, List.append_assoc]

/-- A text leads to one place. -/
theorem unique (h : place.Reads text told behind) (h' : place.Reads text told other) :
    behind = other := by
  obtain ⟨previous, ahead, groups⟩ := behind
  obtain ⟨previous', ahead', groups'⟩ := other
  obtain rfl : ahead = ahead' := List.append_cancel_left (h.ahead.symm.trans h'.ahead)
  obtain rfl : previous = previous' := h.previous.trans h'.previous.symm
  obtain rfl : groups = groups' := h.groups.trans h'.groups.symm
  rfl

/-- Between two texts, one behind the other, there is a place. -/
theorem exists_of_append (h : place.Reads (text ++ more) (told ++ tail) behind) :
    ∃ middle, place.Reads text told middle ∧ middle.Reads more tail behind := by
  refine ⟨⟨text.getLast?.or place.previous, more ++ behind.ahead, place.groups ++ told⟩, ?_, ?_⟩
  · exact ⟨by rw [h.ahead, List.append_assoc], rfl, rfl⟩
  · refine ⟨rfl, ?_, by rw [h.groups, List.append_assoc]⟩
    rw [h.previous, List.getLast?_append, Option.or_assoc]

/-- What stands between the places. -/
theorem upTo_eq (h : place.Reads text told behind) : place.upTo behind = text := by
  rw [upTo, h.ahead, List.length_append, Nat.add_sub_cancel, List.take_left]

/-- What stands between the places is kept. -/
theorem group (h : place.Reads text told behind) :
    place.Reads text (told ++ [text]) { behind with groups := behind.groups ++ [text] } where
  ahead := h.ahead
  previous := h.previous
  groups := by rw [h.groups, List.append_assoc]

/-- Some characters are passed. -/
theorem pass (place : Place) (count : Nat) :
    place.Reads (place.ahead.take count) [] (place.pass count) where
  ahead := (List.take_append_drop ..).symm
  previous := rfl
  groups := (List.append_nil _).symm

/-- The characters of a text are passed. -/
theorem eq_pass (h : place.Reads text [] behind) : behind = place.pass text.length := by
  have hpass := Reads.pass place text.length
  rw [h.ahead, List.take_left] at hpass
  exact h.unique hpass

end Place.Reads

/-! ### Ways -/

/-- A pattern allows a text between two places, in which the groups match some texts. -/
inductive Matches : Pattern → Place → List Char → List (List Char) → Place → Prop
  | literal {text : List Char} {place behind : Place} (reads : place.Reads text [] behind) :
      Matches (literal text) place text [] behind
  | run {inClass : Char → Bool} {text : List Char} {place behind : Place} (nonempty : text ≠ [])
      (chars : ∀ c ∈ text, inClass c = true) (reads : place.Reads text [] behind) :
      Matches (run inClass) place text [] behind
  | group {pattern : Pattern} {text : List Char} {told : List (List Char)} {place behind : Place}
      (inner : Matches pattern place text told behind) :
      Matches (group pattern) place text (told ++ [text])
        { behind with groups := behind.groups ++ [text] }
  | first {first second : Pattern} {text : List Char} {told : List (List Char)}
      {place behind : Place} (inner : Matches first place text told behind) :
      Matches (either first second) place text told behind
  | second {first second : Pattern} {text : List Char} {told : List (List Char)}
      {place behind : Place} (inner : Matches second place text told behind) :
      Matches (either first second) place text told behind
  | both {first second : Pattern} {text more : List Char} {told tail : List (List Char)}
      {place middle behind : Place} (front : Matches first place text told middle)
      (back : Matches second middle more tail behind) :
      Matches (both first second) place (text ++ more) (told ++ tail) behind
  | edge {place : Place} (atEdge : place.atEdge = true) : Matches edge place [] [] place

variable {pattern : Pattern} {place behind : Place} {text : List Char} {told : List (List Char)}

theorem Matches.reads (h : Matches pattern place text told behind) :
    place.Reads text told behind := by
  induction h with
  | literal reads => exact reads
  | run _ _ reads => exact reads
  | group _ ih => exact ih.group
  | first _ ih => exact ih
  | second _ ih => exact ih
  | both _ _ ihFront ihBack => exact ihFront.trans ihBack
  | edge => exact .refl _

/-- Each way to match a pattern is one that it allows. -/
theorem exists_matches_of_mem_ways (h : behind ∈ pattern.ways place) :
    ∃ text told, Matches pattern place text told behind := by
  induction pattern generalizing place behind with
  | literal text =>
    rw [ways, List.mem_ite_nil_right, List.mem_singleton] at h
    obtain ⟨hbegins, rfl⟩ := h
    obtain ⟨rest, hrest⟩ := List.isPrefixOf_iff_prefix.mp hbegins
    have reads := Place.Reads.pass place text.length
    rw [← hrest, List.take_left] at reads
    exact ⟨_, _, .literal reads⟩
  | run inClass =>
    simp only [ways, List.mem_map, List.mem_reverse, List.mem_range] at h
    obtain ⟨count, hcount, rfl⟩ := h
    -- What is passed is a part of the longest run.
    have htake : place.ahead.take (count + 1) =
        (place.ahead.takeWhile inClass).take (count + 1) := by
      rw [← List.take_append_of_le_length hcount, List.takeWhile_append_dropWhile]
    refine ⟨_, _, .run ?_ ?_ (.pass place (count + 1))⟩
    · rw [htake]
      intro hnil
      have hlength := congrArg List.length hnil
      rw [List.length_take, List.length_nil] at hlength
      omega
    · intro c hc
      rw [htake] at hc
      exact List.all_eq_true.mp List.all_takeWhile c (List.mem_of_mem_take hc)
  | group pattern ih =>
    rw [ways, List.mem_map] at h
    obtain ⟨inner, hinner, rfl⟩ := h
    obtain ⟨text, told, hmatches⟩ := ih hinner
    rw [hmatches.reads.upTo_eq]
    exact ⟨_, _, .group hmatches⟩
  | either first second ihFirst ihSecond =>
    rw [ways, List.mem_append] at h
    rcases h with h | h
    · obtain ⟨text, told, hmatches⟩ := ihFirst h
      exact ⟨_, _, .first hmatches⟩
    · obtain ⟨text, told, hmatches⟩ := ihSecond h
      exact ⟨_, _, .second hmatches⟩
  | both first second ihFirst ihSecond =>
    rw [ways, List.mem_flatMap] at h
    obtain ⟨middle, hmiddle, hbehind⟩ := h
    obtain ⟨text, told, front⟩ := ihFirst hmiddle
    obtain ⟨more, tail, back⟩ := ihSecond hbehind
    exact ⟨_, _, .both front back⟩
  | edge =>
    rw [ways, List.mem_ite_nil_right, List.mem_singleton] at h
    obtain ⟨hedge, rfl⟩ := h
    exact ⟨_, _, .edge hedge⟩

/-- Whatever a pattern allows is a way to match it. -/
theorem Matches.mem_ways (h : Matches pattern place text told behind) :
    behind ∈ pattern.ways place := by
  induction h with
  | @literal text place behind reads =>
    rw [ways, reads.ahead, if_pos (List.isPrefixOf_iff_prefix.mpr (List.prefix_append ..))]
    exact List.mem_singleton.mpr reads.eq_pass
  | @run inClass text place behind nonempty chars reads =>
    have hlength : 0 < text.length := List.length_pos_iff.mpr nonempty
    have hlongest : text.length ≤ (place.ahead.takeWhile inClass).length := by
      rw [reads.ahead, List.takeWhile_append_of_pos chars, List.length_append]
      exact Nat.le_add_right ..
    simp only [ways, List.mem_map, List.mem_reverse, List.mem_range]
    refine ⟨text.length - 1, by omega, ?_⟩
    rw [Nat.sub_add_cancel hlength]
    exact reads.eq_pass.symm
  | group inner ih =>
    rw [ways, List.mem_map]
    refine ⟨_, ih, ?_⟩
    rw [inner.reads.upTo_eq]
  | first _ ih => exact List.mem_append_left _ ih
  | second _ ih => exact List.mem_append_right _ ih
  | both _ _ ihFront ihBack => exact List.mem_flatMap.mpr ⟨_, ihFront, ihBack⟩
  | edge atEdge =>
    rw [ways, if_pos atEdge]
    exact List.mem_singleton_self _

/-- The ways to match a pattern are those that it allows. -/
theorem mem_ways_iff :
    behind ∈ pattern.ways place ↔ ∃ text told, Matches pattern place text told behind :=
  ⟨exists_matches_of_mem_ways, fun ⟨_, _, h⟩ => h.mem_ways⟩

/-- A pattern behind another one allows what follows what that one does. -/
theorem matches_append_iff {first second : Pattern} :
    Matches (first ++ second) place text told behind ↔
      ∃ front back toldFront toldBack middle, Matches first place front toldFront middle ∧
        Matches second middle back toldBack behind ∧ text = front ++ back ∧
        told = toldFront ++ toldBack := by
  constructor
  · intro h
    change Matches (both first second) place text told behind at h
    cases h with
    | both front back => exact ⟨_, _, _, _, _, front, back, rfl, rfl⟩
  · rintro ⟨front, back, toldFront, toldBack, middle, hfront, hback, rfl, rfl⟩
    exact .both hfront hback

theorem matches_edge_iff :
    Matches edge place text told behind ↔
      place.atEdge = true ∧ text = [] ∧ told = [] ∧ behind = place := by
  constructor
  · rintro ⟨⟩
    exact ⟨‹_›, rfl, rfl, rfl⟩
  · rintro ⟨atEdge, rfl, rfl, rfl⟩
    exact .edge atEdge

/-! ### Plain patterns -/

/-- A pattern allows the texts of some form wherever they stand, and its groups match what the form says
of them. -/
def IsPlain (pattern : Pattern) (form : List Char → List (List Char) → Prop) : Prop :=
  ∀ place text told behind,
    Matches pattern place text told behind ↔ form text told ∧ place.Reads text told behind

section IsPlain

variable {first second : Pattern} {form other : List Char → List (List Char) → Prop}

theorem isPlain_literal (text : List Char) :
    IsPlain (literal text) fun found told => found = text ∧ told = [] := by
  intro place found told behind
  constructor
  · rintro ⟨reads⟩
    exact ⟨⟨rfl, rfl⟩, reads⟩
  · rintro ⟨⟨rfl, rfl⟩, reads⟩
    exact .literal reads

theorem isPlain_group_run (inClass : Char → Bool) :
    IsPlain (group (run inClass)) fun found told =>
      (found ≠ [] ∧ ∀ c ∈ found, inClass c = true) ∧ told = [found] := by
  intro place found told behind
  constructor
  · intro h
    have reads := h.reads
    cases h with
    | group inner =>
      cases inner with
      | run nonempty chars => exact ⟨⟨⟨nonempty, chars⟩, rfl⟩, reads⟩
  · rintro ⟨⟨⟨nonempty, chars⟩, rfl⟩, reads⟩
    -- In front of the end of the group nothing has been kept of it.
    obtain ⟨previous, ahead, groups⟩ := behind
    obtain rfl : groups = place.groups ++ [found] := reads.groups
    have inner : place.Reads found [] ⟨previous, ahead, place.groups⟩ :=
      ⟨reads.ahead, reads.previous, (List.append_nil _).symm⟩
    exact .group (.run nonempty chars inner)

theorem IsPlain.either (h : IsPlain first form) (h' : IsPlain second other) :
    IsPlain (either first second) fun found told => form found told ∨ other found told := by
  intro place found told behind
  rw [or_and_right, ← h, ← h']
  constructor
  · intro h
    cases h with
    | first inner => exact .inl inner
    | second inner => exact .inr inner
  · rintro (inner | inner)
    · exact .first inner
    · exact .second inner

theorem IsPlain.append (h : IsPlain first form) (h' : IsPlain second other) :
    IsPlain (first ++ second) fun found told => ∃ front back toldFront toldBack,
      form front toldFront ∧ other back toldBack ∧ found = front ++ back ∧
      told = toldFront ++ toldBack := by
  intro place found told behind
  rw [matches_append_iff]
  simp only [h _ _ _ _, h' _ _ _ _]
  constructor
  · rintro ⟨front, back, toldFront, toldBack, middle, ⟨hfront, readsFront⟩, ⟨hback, readsBack⟩, rfl,
      rfl⟩
    exact ⟨⟨front, back, toldFront, toldBack, hfront, hback, rfl, rfl⟩, readsFront.trans readsBack⟩
  · rintro ⟨⟨front, back, toldFront, toldBack, hfront, hback, rfl, rfl⟩, reads⟩
    obtain ⟨middle, readsFront, readsBack⟩ := reads.exists_of_append
    exact ⟨front, back, toldFront, toldBack, middle, ⟨hfront, readsFront⟩, ⟨hback, readsBack⟩, rfl,
      rfl⟩

end IsPlain

/-! ### Searches -/

/-- A pattern that stands between two edges, whose texts consist of word characters. -/
structure FindsWords (pattern : Pattern) (form : List Char → List (List Char) → Prop) : Prop where
  matches_iff : ∀ place word told behind, Matches pattern place word told behind ↔
    place.atEdge = true ∧ form word told ∧ place.Reads word told behind ∧ behind.atEdge = true
  nonempty : ∀ word told, form word told → word ≠ []
  chars : ∀ word told, form word told → ∀ c ∈ word, isWord c = true
  unique : ∀ word told told', form word told → form word told' → told = told'

/-- A plain pattern between two edges. -/
theorem matches_edges_iff {form : List Char → List (List Char) → Prop}
    (plain : IsPlain pattern form) :
    Matches (edge ++ pattern ++ edge) place text told behind ↔
      place.atEdge = true ∧ form text told ∧ place.Reads text told behind ∧
        behind.atEdge = true := by
  simp only [matches_append_iff, matches_edge_iff, plain _ _ _ _]
  constructor
  · rintro ⟨_, _, _, _, _, ⟨_, _, _, _, _, ⟨starts, rfl, rfl, rfl⟩, ⟨hform, reads⟩, rfl, rfl⟩,
      ⟨ends, rfl, rfl, rfl⟩, rfl, rfl⟩
    rw [List.append_nil, List.append_nil]
    exact ⟨starts, hform, reads, ends⟩
  · rintro ⟨starts, hform, reads, ends⟩
    exact ⟨text, [], told, [], behind, ⟨[], text, [], told, place, ⟨starts, rfl, rfl, rfl⟩,
      ⟨hform, reads⟩, rfl, rfl⟩, ⟨ends, rfl, rfl, rfl⟩, by simp, by simp⟩

/-- A text of word characters between two edges is a word. -/
theorem Place.Reads.isWordAt_iff (h : place.Reads text told behind) (nonempty : text ≠ [])
    (chars : ∀ c ∈ text, isWord c = true) :
    IsWordAt place.previous text behind.ahead ↔ place.atEdge = true ∧ behind.atEdge = true := by
  have hfirst : place.ahead.head?.any isWord = true := by
    obtain ⟨c, rest, rfl⟩ := List.exists_cons_of_ne_nil nonempty
    rw [h.ahead]
    exact chars c (List.mem_cons_self ..)
  have hlast : behind.previous.any isWord = true := by
    rw [h.previous, List.getLast?_eq_some_getLast nonempty]
    exact chars _ (List.getLast_mem nonempty)
  rw [atEdge, atEdge, hfirst, hlast, Bool.bne_true, Bool.true_bne, Bool.not_eq_true',
    Bool.not_eq_true']
  exact ⟨fun h => ⟨h.starts, h.ends⟩, fun h => ⟨nonempty, chars, h.1, h.2⟩⟩

/-- Behind a character, where some characters more are passed over, a word of some form begins. -/
def HasWordFrom (form : List Char → List (List Char) → Prop) (previous : Option Char) (passed : Nat)
    (text : List Char) (told : List (List Char)) : Prop :=
  ∃ before word after, text = before ++ (word ++ after) ∧ passed ≤ before.length ∧
    IsWordAt (before.getLast?.or previous) word after ∧ form word told

section HasWordFrom

variable {form : List Char → List (List Char) → Prop} {previous : Option Char} {passed : Nat}
  {c : Char} {word rest : List Char} {toldHere : List (List Char)}

theorem not_hasWordFrom_nil : ¬ HasWordFrom form previous passed [] told := by
  rintro ⟨before, word, after, hsplit, -, isWordAt, -⟩
  have happend := (List.append_eq_nil_iff.mp hsplit.symm).2
  exact isWordAt.nonempty (List.append_eq_nil_iff.mp happend).1

/-- Passing a character over is going on behind it. -/
theorem hasWordFrom_cons_iff :
    HasWordFrom form previous (passed + 1) (c :: rest) told ↔
      HasWordFrom form (some c) passed rest told := by
  have hprevious (before : List Char) :
      (c :: before).getLast?.or previous = before.getLast?.or (some c) := by
    rw [← List.nil_append (c :: before), getLast?_append_cons, Option.or_assoc, Option.some_or]
  constructor
  · rintro ⟨before, word, after, hsplit, hpassed, isWordAt, hform⟩
    cases before with
    | nil => exact absurd hpassed (Nat.not_succ_le_zero _)
    | cons d before =>
      obtain ⟨rfl, rfl⟩ := List.cons.inj hsplit
      exact ⟨before, word, after, rfl, Nat.le_of_succ_le_succ hpassed, hprevious before ▸ isWordAt,
        hform⟩
  · rintro ⟨before, word, after, rfl, hpassed, isWordAt, hform⟩
    exact ⟨c :: before, word, after, rfl, Nat.succ_le_succ hpassed,
      (hprevious before).symm ▸ isWordAt, hform⟩

/-- Where no word of the form begins, the next character may be passed over. -/
theorem hasWordFrom_zero_iff_of_not
    (none : ∀ word after, text = word ++ after → IsWordAt previous word after → ¬ form word told) :
    HasWordFrom form previous 0 text told ↔ HasWordFrom form previous 1 text told := by
  constructor
  · rintro ⟨before, word, after, hsplit, -, isWordAt, hform⟩
    cases before with
    | nil => exact absurd hform (none word after hsplit isWordAt)
    | cons c before => exact ⟨c :: before, word, after, hsplit, by simp, isWordAt, hform⟩
  · exact fun ⟨before, word, after, hsplit, _, h⟩ => ⟨before, word, after, hsplit, Nat.zero_le _, h⟩

/-- Where a word of the form begins, the next one begins behind it. -/
theorem hasWordFrom_zero_iff_of_isWordAt
    (unique : ∀ word told told', form word told → form word told' → told = told')
    (isWordAt : IsWordAt previous word rest) (hform : form word toldHere) :
    HasWordFrom form previous 0 (word ++ rest) told ↔
      told = toldHere ∨ HasWordFrom form previous word.length (word ++ rest) told := by
  constructor
  · rintro ⟨before, other, after, hsplit, -, isWordAt', hform'⟩
    by_cases hbefore : before = []
    · subst hbefore
      obtain rfl := isWordAt.eq_of_append_eq isWordAt' hsplit
      exact .inl (unique _ _ _ hform' hform)
    · have hlength := isWordAt.length_le isWordAt' hbefore hsplit
      exact .inr ⟨before, other, after, hsplit, hlength, isWordAt', hform'⟩
  · rintro (rfl | ⟨before, other, after, hsplit, -, h⟩)
    · exact ⟨[], word, rest, rfl, Nat.le_refl _, isWordAt, hform⟩
    · exact ⟨before, other, after, hsplit, Nat.zero_le _, h⟩

end HasWordFrom

namespace FindsWords

variable {form : List Char → List (List Char) → Prop} {previous : Option Char} {passed : Nat}

/-- The ways to match such a pattern are the words of its form. -/
theorem mem_ways_iff (finds : FindsWords pattern form) :
    behind ∈ pattern.ways place ↔ ∃ word told, form word told ∧
      IsWordAt place.previous word behind.ahead ∧ place.Reads word told behind := by
  rw [Pattern.mem_ways_iff]
  simp only [finds.matches_iff]
  constructor
  · rintro ⟨word, told, starts, hform, reads, ends⟩
    exact ⟨word, told, hform,
      (reads.isWordAt_iff (finds.nonempty _ _ hform) (finds.chars _ _ hform)).mpr ⟨starts, ends⟩, reads⟩
  · rintro ⟨word, told, hform, isWordAt, reads⟩
    obtain ⟨starts, ends⟩ := (reads.isWordAt_iff isWordAt.nonempty isWordAt.chars).mp isWordAt
    exact ⟨word, told, starts, hform, reads, ends⟩

/-- A search finds each word that begins where all that is to be passed over has been. -/
theorem mem_searchFrom_iff (finds : FindsWords pattern form) :
    told ∈ pattern.searchFrom previous passed text ↔
      HasWordFrom form previous passed text told := by
  induction text generalizing previous passed with
  | nil => simp [searchFrom, not_hasWordFrom_nil]
  | cons c rest ih =>
    cases passed with
    | succ passed => rw [searchFrom, ih, hasWordFrom_cons_iff]
    | zero =>
      rw [searchFrom]
      cases hhead : (pattern.ways { previous, ahead := c :: rest }).head? with
      | none =>
        rw [ih, ← hasWordFrom_cons_iff, hasWordFrom_zero_iff_of_not]
        intro word after hsplit isWordAt hform
        have hmem : Place.mk (word.getLast?.or previous) after told ∈
            pattern.ways { previous, ahead := c :: rest } :=
          finds.mem_ways_iff.mpr ⟨word, told, hform, isWordAt, hsplit, rfl, rfl⟩
        exact absurd (List.head?_eq_none_iff.mp hhead ▸ hmem) List.not_mem_nil
      | some behind =>
        obtain ⟨word, toldHere, hform, isWordAt, reads⟩ :=
          finds.mem_ways_iff.mp (List.mem_of_head? hhead)
        have hsplit : c :: rest = word ++ behind.ahead := reads.ahead
        have isWordAt : IsWordAt previous word behind.ahead := isWordAt
        have hgroups : behind.groups = toldHere := reads.groups
        -- What is passed over is the word, of which the first character is behind the search already.
        have hlength : rest.length - behind.ahead.length + 1 = word.length := by
          have hnonempty := List.length_pos_iff.mpr isWordAt.nonempty
          have htotal := congrArg List.length hsplit
          rw [List.length_cons, List.length_append] at htotal
          omega
        have hfrom : HasWordFrom form (some c) (rest.length - behind.ahead.length) rest told ↔
            HasWordFrom form previous word.length (word ++ behind.ahead) told := by
          rw [← hlength, ← hsplit]
          exact hasWordFrom_cons_iff.symm
        rw [List.mem_cons, ih, hfrom, hgroups, hsplit,
          hasWordFrom_zero_iff_of_isWordAt finds.unique isWordAt hform]

/-- A search finds the words of the form in a text. -/
theorem mem_search_iff (finds : FindsWords pattern form) :
    told ∈ pattern.search text ↔ ∃ word, IsWordOf text word ∧ form word told := by
  rw [search, finds.mem_searchFrom_iff, HasWordFrom]
  simp only [Option.or_none]
  constructor
  · rintro ⟨before, word, after, hsplit, -, isWordAt, hform⟩
    exact ⟨word, ⟨before, after, hsplit, isWordAt⟩, hform⟩
  · rintro ⟨word, ⟨before, after, hsplit, isWordAt⟩, hform⟩
    exact ⟨before, word, after, hsplit, Nat.zero_le _, isWordAt, hform⟩

end FindsWords

end Treble.Text.Pattern
