import Treble.Proofs.Xml.Passages
import Treble.Proofs.Xml.Spelling

/-!
# Text runs

A text run of a document stands between two pieces of markup, and spells some characters. The same
characters can be written in another spelling, or as they are in a section of character data. A reader
is told of the same text then, but for white space around it.

## Main definitions

* `Xml.Writes` — a piece of a document writes some characters
* `Xml.IsTextRun` — a text run stands between two parts of a document
* `Xml.Reading.trimmed` — a reading without the white space around the texts

## Main results

* `Xml.trimmed_ofText_eq` — but for white space around the texts, it makes no difference how the
  characters of a run are written
* `Xml.IsTextRun.read_of_not_spells` — at a run that spells nothing the reading of a document is over
-/

namespace Treble.Xml

open Text

/-! ### Without white space around the texts -/

/-- An event without the white space around a text. -/
def Event.trimmed : Event → Event
  | .text content => .text (trim content)
  | event => event

namespace Reading

/-- A reading without the white space around the texts. -/
def trimmed (reading : Reading) : Reading :=
  { reading with events := reading.events.map Event.trimmed }

theorem trimmed_push (event : Event) (following : Reading) :
    (push event following).trimmed = push event.trimmed following.trimmed := rfl

theorem trimmed_pushAll (events : List Event) (following : Reading) :
    (pushAll events following).trimmed =
      pushAll (events.map Event.trimmed) following.trimmed := by
  simp [pushAll, trimmed]

end Reading

/-! ### Pieces that write characters -/

/-- A piece of a document writes some characters: it is a text run that spells them, or a section that
holds them as they are. -/
inductive Writes : List Char → List Char → Prop
  | run {text chars : List Char} (some : text ≠ []) (plain : ∀ c ∈ text, c ≠ '<')
      (spells : Spells text chars) : Writes text chars
  | cdata {chars : List Char} (free : ¬ "]]>".toList <:+: chars) :
      Writes ("<![CDATA[".toList ++ chars ++ "]]>".toList) chars

namespace Writes

variable {piece chars rest : List Char}

theorem ne_nil (writes : Writes piece chars) : piece ≠ [] := by
  cases writes with
  | run some => exact some
  | cdata => exact List.cons_ne_nil _ _

/-- Of a piece that writes some characters a reader is told those characters, but for white space around
them. -/
theorem exists_told (writes : Writes piece chars) (ends : EndsText rest) :
    ∃ told, trim told = trim (String.ofList chars) ∧ ∀ opened,
      Reading.ofText opened (piece ++ rest) =
        Reading.push (.text told) (Reading.ofText opened rest) := by
  cases writes with
  | run some plain spells =>
    obtain ⟨told, htold, htrim⟩ := spells.strip
    refine ⟨String.ofList told, htrim, fun opened => ?_⟩
    rw [Reading.ofText_append_of_lexeme (.run _ some plain ends), Reading.ofTokens,
      resolve_eq_ok_iff.mpr htold]
    rfl
  | cdata free =>
    refine ⟨String.ofList chars, rfl, fun opened => ?_⟩
    rw [Reading.ofText_append_of_lexeme (.cdata free rest)]
    rfl

end Writes

/-! ### Behind a passage -/

section Passage

variable {passage run other after chars : List Char} {tokens : List Token}

/-- But for white space around the texts, it makes no difference how the characters of a run behind a
passage are written. -/
theorem trimmed_ofText_eq (read : Passage passage tokens (run ++ after))
    (single : ¬ EndsText (run ++ after)) (ends : EndsText after) (writes : Writes run chars)
    (writes' : Writes other chars) :
    (Reading.ofText [] (passage ++ (other ++ after))).trimmed =
      (Reading.ofText [] (passage ++ (run ++ after))).trimmed := by
  have read' : Passage passage tokens (other ++ after) :=
    read.replace_of_imp fun h => absurd h single
  obtain ⟨told, htrim, htold⟩ := writes.exists_told ends
  obtain ⟨told', htrim', htold'⟩ := writes'.exists_told ends
  -- The reading is over in front of the run, or goes on with the text that the run tells.
  obtain ⟨fault, hread⟩ | ⟨inner, hread⟩ := Reading.ofText_append_of_passage [] tokens
  · rw [hread _ _ read, hread _ _ read']
  · rw [hread _ _ read, hread _ _ read', htold, htold', Reading.trimmed_pushAll,
      Reading.trimmed_pushAll, Reading.trimmed_push, Reading.trimmed_push, Event.trimmed,
      Event.trimmed, htrim, htrim']

/-- At a run that spells nothing the reading is over. -/
theorem ofText_of_not_spells (read : Passage passage tokens (run ++ after)) (some : run ≠ [])
    (plain : ∀ c ∈ run, c ≠ '<') (ends : EndsText after) (broken : ∀ chars, ¬ Spells run chars) :
    ∃ fault, Reading.ofText [] (passage ++ (run ++ after)) =
      ⟨(Reading.ofTokens none [] tokens).events, Option.some fault⟩ := by
  cases hresolve : resolve (strip isMarkupBlank run) with
  | ok chars =>
    obtain ⟨all, hall⟩ := (resolve_eq_ok_iff.mp hresolve).of_strip
    exact absurd hall (broken all)
  | error cause =>
    have lexeme : Lexeme run (.text (strip isMarkupBlank run)) after := .run _ some plain ends
    obtain ⟨fault, hread⟩ | ⟨inner, hread⟩ := Reading.ofText_append_of_passage [] tokens
    · exact ⟨fault, hread _ _ read⟩
    · refine ⟨.reference cause, ?_⟩
      rw [hread _ _ read, Reading.ofText_append_of_lexeme lexeme, Reading.ofTokens, hresolve]
      simp only [Reading.pushAll, List.append_nil]

end Passage

/-! ### In a document -/

theorem dropMark_sublist (text : List Char) : (dropMark text).Sublist text := by
  cases text with
  | nil => exact .slnil
  | cons c text =>
    rw [dropMark]
    split
    · exact List.sublist_cons_self ..
    · exact .refl _

/-- A mark in front of a text spells itself. -/
theorem Spells.of_dropMark {text chars : List Char} (h : Spells (dropMark text) chars) :
    ∃ all, Spells text all := by
  cases text with
  | nil => exact ⟨chars, h⟩
  | cons c text =>
    rw [dropMark] at h
    split at h
    · next hc => exact ⟨c :: chars, .literal (hc ▸ by decide) h⟩
    · exact ⟨chars, h⟩

/-- A text run stands between two parts of a document: markup or nothing is in front of it and behind
it. -/
structure IsTextRun (before run after : String) : Prop where
  nonempty : run ≠ ""
  plain : ∀ c ∈ run.toList, c ≠ '<'
  begins : ∃ tokens, Passage (dropMark before.toList) tokens (run.toList ++ after.toList)
  ends : EndsText after.toList

namespace IsTextRun

variable {before run after : String}

theorem ne_nil (isRun : IsTextRun before run after) : run.toList ≠ [] :=
  fun h => isRun.nonempty (String.toList_eq_nil_iff.mp h)

/-- In front of a run no other run ends. -/
theorem not_endsText (isRun : IsTextRun before run after) :
    ¬ EndsText (run.toList ++ after.toList) := by
  obtain ⟨c, rest, hrun⟩ := List.exists_cons_of_ne_nil isRun.ne_nil
  rw [hrun]
  rintro (h | h)
  · exact absurd h (List.cons_ne_nil _ _)
  · exact isRun.plain c (hrun ▸ List.mem_cons_self ..) (Option.some.inj h)

end IsTextRun

/-- Characters that are written in front of all else make a text outside the root. -/
theorem ofText_append_of_writes {piece chars after : List Char} (writes : Writes piece chars)
    (ends : EndsText after) :
    ∃ told, Reading.ofText [] (piece ++ after) =
      Reading.push (.text told) (Reading.ofText [] after) := by
  obtain ⟨told, -, htold⟩ := writes.exists_told ends
  exact ⟨told, htold []⟩

/-- In front of a document they make such a text too, or nothing at all where they are the mark. -/
theorem ofText_dropMark_append {piece chars after : List Char} (writes : Writes piece chars)
    (ends : EndsText after) :
    Reading.ofText [] (dropMark (piece ++ after)) = Reading.ofText [] after ∨
      ∃ told, Reading.ofText [] (dropMark (piece ++ after)) =
        Reading.push (.text told) (Reading.ofText [] after) := by
  cases writes with
  | cdata free => exact .inr (ofText_append_of_writes (.cdata free) ends)
  | @run text chars some plain spells =>
    obtain ⟨c, text, rfl⟩ := List.exists_cons_of_ne_nil some
    by_cases hc : c = byteOrderMark
    · have hdrop : dropMark (c :: text ++ after) = text ++ after := if_pos hc
      rw [hdrop]
      by_cases htext : text = []
      · subst htext
        exact .inl rfl
      · obtain ⟨more, -, hmore⟩ := spells.exists_of_cons (hc ▸ by decide)
        have hplain : ∀ d ∈ text, d ≠ '<' := fun d hd => plain d (List.mem_cons_of_mem _ hd)
        exact .inr (ofText_append_of_writes (.run htext hplain hmore) ends)
    · have hdrop : dropMark (c :: text ++ after) = c :: text ++ after := if_neg hc
      rw [hdrop]
      exact .inr (ofText_append_of_writes (.run some plain spells) ends)

/-- A run in front of a document that spells nothing leaves nothing of the reading. -/
theorem ofText_dropMark_of_not_spells {run after : List Char} (plain : ∀ c ∈ run, c ≠ '<')
    (ends : EndsText after) (broken : ∀ chars, ¬ Spells run chars) :
    ∃ fault, Reading.ofText [] (dropMark (run ++ after)) = ⟨[], some fault⟩ := by
  -- A mark in front of the run spells itself, so that what follows it spells nothing.
  have hbroken : ∀ chars, ¬ Spells (dropMark run) chars := fun chars h => by
    obtain ⟨all, hall⟩ := h.of_dropMark
    exact broken all hall
  have hrun : run ≠ [] := fun h => broken [] (h ▸ .nil)
  have hsome : dropMark run ≠ [] := fun h => hbroken [] (h ▸ .nil)
  have hplain : ∀ c ∈ dropMark run, c ≠ '<' := fun c hc => plain c ((dropMark_sublist _).mem hc)
  rw [dropMark_append hrun]
  exact ofText_of_not_spells .done hsome hplain ends hbroken

namespace IsTextRun

variable {before run after : String}

/-- At a run that spells nothing the reading of a document is over. -/
theorem read_of_not_spells (isRun : IsTextRun before run after)
    (broken : ∀ chars, ¬ Spells run.toList chars) :
    ∃ tokens fault, Passage (dropMark before.toList) tokens (run.toList ++ after.toList) ∧
      read (before ++ run ++ after) =
        ⟨(Reading.ofTokens none [] tokens).events, some fault⟩ := by
  obtain ⟨tokens, hread⟩ := isRun.begins
  simp only [read, String.toList_append, List.append_assoc]
  by_cases hbefore : before.toList = []
  · rw [hbefore] at hread ⊢
    obtain rfl := hread.eq_nil rfl
    obtain ⟨fault, h⟩ := ofText_dropMark_of_not_spells isRun.plain isRun.ends broken
    exact ⟨[], fault, hread, h⟩
  · rw [dropMark_append hbefore]
    obtain ⟨fault, h⟩ := ofText_of_not_spells hread isRun.ne_nil isRun.plain isRun.ends broken
    exact ⟨tokens, fault, hread, h⟩

end IsTextRun

end Treble.Xml
