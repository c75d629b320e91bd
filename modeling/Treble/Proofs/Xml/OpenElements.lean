import Mathlib.Data.List.Infix
import Treble.Xml.Event

/-!
# Open elements

A place in a document lies in some elements: in those that have begun in front of it and whose end tags
are behind it, or nowhere. Which these are is said here of any sequence of events by what has ended in
it, without a run through it; a run through the names of the open elements comes to the same. The
events of a document are such a sequence at every place, since its end tags are checked as it is read.

## Main definitions

* `Xml.Event.openedAfter` — the names of the open elements behind an event
* `Xml.LeavesOpen` — the elements that have begun in some events and not ended
* `Xml.saidAt` — what the texts say that stand directly in an element at some place

## Main results

* `Xml.LeavesOpen.foldl_openedAfter`, `Xml.LeavesOpen.unique` — the names of the open elements are those
  that a run through the events comes to
* `Xml.LeavesOpen.exists_of_append` — what is open at a place in some events, and what may end there
* `Xml.LeavesOpen.exists_concat_within` — an element goes on with what does not end it
* `Xml.exists_leavesOpen` — the events of a document, up to any place of it
-/

namespace Treble.Xml

open Text

/-- The names of the elements that are open behind an event, the innermost first. -/
def Event.openedAfter (opened : List String) : Event → List String
  | .opening tag => tag.name :: opened
  | .closing _ => opened.tail
  | .empty _ | .text _ => opened

/-- An element of a name begins with an event. -/
def Event.Begins (name : String) : Event → Prop
  | .opening tag | .empty tag => tag.name = name
  | .closing _ | .text _ => False

/-- The elements that have begun in some events and not ended, the innermost first. -/
inductive LeavesOpen : List Event → List String → Prop
  | nil : LeavesOpen [] []
  | text {content : String} {events : List Event} {opened : List String}
      (rest : LeavesOpen events opened) : LeavesOpen (.text content :: events) opened
  | empty {tag : Tag} {events : List Event} {opened : List String}
      (rest : LeavesOpen events opened) : LeavesOpen (.empty tag :: events) opened
  /-- An element has ended, and so has all that has begun in it. -/
  | ended {tag : Tag} {inner events : List Event} {opened : List String}
      (within : LeavesOpen inner []) (rest : LeavesOpen events opened) :
      LeavesOpen (.opening tag :: (inner ++ .closing tag.name :: events)) opened
  /-- An element has not ended, and all that follows stands in it. -/
  | unended {tag : Tag} {inner : List Event} {opened : List String}
      (within : LeavesOpen inner opened) : LeavesOpen (.opening tag :: inner) (opened ++ [tag.name])

namespace LeavesOpen

variable {events rest : List Event} {opened inner : List String} {name : String}

/-! ### More events -/

/-- Events that follow stand in the elements that are open. -/
theorem append (outside : LeavesOpen events opened) (following : LeavesOpen rest inner) :
    LeavesOpen (events ++ rest) (inner ++ opened) := by
  induction outside with
  | nil => rwa [List.append_nil]
  | text _ ih => exact .text ih
  | empty _ ih => exact .empty ih
  | ended within _ _ ih =>
    rw [List.cons_append, List.append_assoc]
    exact .ended within ih
  | unended _ ih =>
    rw [← List.append_assoc]
    exact .unended ih

/-- An end tag ends the innermost element, if it names that one. -/
theorem concat_closing (h : LeavesOpen events (name :: opened)) :
    LeavesOpen (events ++ [.closing name]) opened := by
  generalize hnames : name :: opened = names at h
  induction h generalizing opened with
  | nil => cases hnames
  | text _ ih => exact .text (ih hnames)
  | empty _ ih => exact .empty (ih hnames)
  | ended within _ _ ih =>
    rw [List.cons_append, List.append_assoc]
    exact .ended within (ih hnames)
  | @unended tag within names leaves ih =>
    -- The outermost element that has not ended is the innermost one too, or there is another in it.
    cases names with
    | nil =>
      obtain ⟨rfl, rfl⟩ := List.cons.inj hnames
      exact .ended leaves .nil
    | cons first names =>
      obtain ⟨rfl, rfl⟩ := List.cons.inj hnames
      exact .unended (ih rfl)

/-! ### The run through the names -/

/-- A run through some events adds the names of the elements that they leave open. -/
theorem foldl_openedAfter (h : LeavesOpen events opened) (outer : List String) :
    events.foldl Event.openedAfter outer = opened ++ outer := by
  induction h generalizing outer with
  | nil => rfl
  | text _ ih => exact ih outer
  | empty _ ih => exact ih outer
  | @ended tag inner events opened within _ ihWithin ihRest =>
    have hwithin : inner.foldl Event.openedAfter (tag.name :: outer) = tag.name :: outer :=
      ihWithin (tag.name :: outer)
    rw [List.foldl_cons, List.foldl_append, Event.openedAfter, hwithin, List.foldl_cons]
    exact ihRest outer
  | @unended tag inner opened _ ih =>
    rw [List.foldl_cons, List.append_assoc]
    exact ih (tag.name :: outer)

/-- The same events do not leave other elements open. -/
theorem unique {others : List String} (h : LeavesOpen events opened)
    (other : LeavesOpen events others) : opened = others := by
  have hrun := (h.foldl_openedAfter []).symm.trans (other.foldl_openedAfter [])
  rwa [List.append_nil, List.append_nil] at hrun

/-! ### Parts of the events -/

/-- At each place in some events they leave elements open, and what ends there is the innermost one. -/
theorem exists_of_append {names : List String} (h : LeavesOpen (events ++ rest) names) :
    ∃ opened, LeavesOpen events opened ∧
      ∀ name, rest.head? = some (.closing name) → opened.head? = some name := by
  generalize hall : events ++ rest = all at h
  -- The induction is on what the whole leaves open. In front of the whole nothing can end, and an
  -- element is cut in front of its end tag or behind it.
  induction h generalizing events rest with
  | nil =>
    obtain ⟨rfl, rfl⟩ := List.append_eq_nil_iff.mp hall
    exact ⟨[], .nil, by simp⟩
  | text _ ih =>
    obtain ⟨rfl, rfl⟩ | ⟨events, rfl, hrest⟩ := List.append_eq_cons_iff.mp hall
    · exact ⟨[], .nil, by simp⟩
    · obtain ⟨opened, leaves, ends⟩ := ih hrest.symm
      exact ⟨opened, .text leaves, ends⟩
  | empty _ ih =>
    obtain ⟨rfl, rfl⟩ | ⟨events, rfl, hrest⟩ := List.append_eq_cons_iff.mp hall
    · exact ⟨[], .nil, by simp⟩
    · obtain ⟨opened, leaves, ends⟩ := ih hrest.symm
      exact ⟨opened, .empty leaves, ends⟩
  | @ended tag inner following opened within _ ihWithin ihRest =>
    obtain ⟨rfl, rfl⟩ | ⟨events, rfl, hrest⟩ := List.append_eq_cons_iff.mp hall
    · exact ⟨[], .nil, by simp⟩
    · -- In front of the end tag the element is open, with nothing open in it.
      have hend : ∃ opened, LeavesOpen (.opening tag :: inner) opened ∧ ∀ name,
          (Event.closing tag.name :: following).head? = some (.closing name) →
            opened.head? = some name :=
        ⟨[tag.name], .unended within, fun name hname => by cases hname; rfl⟩
      obtain ⟨behind, hinner, rfl⟩ | ⟨behind, rfl, hbehind⟩ :=
        List.append_eq_append_iff.mp hrest.symm
      · cases behind with
        | nil =>
          rw [List.append_nil] at hinner
          rwa [← hinner]
        | cons event behind =>
          obtain ⟨opened, leaves, ends⟩ := ihWithin hinner.symm
          refine ⟨opened ++ [tag.name], .unended leaves, fun name hname => ?_⟩
          rw [List.head?_append, ends name hname, Option.some_or]
      · obtain ⟨rfl, rfl⟩ | ⟨events, rfl, hfollowing⟩ := List.append_eq_cons_iff.mp hbehind.symm
        · rwa [List.append_nil]
        · obtain ⟨opened, leaves, ends⟩ := ihRest hfollowing.symm
          exact ⟨opened, .ended within leaves, ends⟩
  | @unended tag inner opened _ ih =>
    obtain ⟨rfl, rfl⟩ | ⟨events, rfl, hrest⟩ := List.append_eq_cons_iff.mp hall
    · exact ⟨[], .nil, by simp⟩
    · obtain ⟨opened, leaves, ends⟩ := ih hrest.symm
      refine ⟨opened ++ [tag.name], .unended leaves, fun name hname => ?_⟩
      rw [List.head?_append, ends name hname, Option.some_or]

/-- In front of an end tag the element is open that it ends. -/
theorem of_concat_closing (h : LeavesOpen (events ++ [.closing name]) opened) :
    LeavesOpen events (name :: opened) := by
  obtain ⟨names, leaves, ends⟩ := h.exists_of_append
  obtain ⟨outer, rfl⟩ := List.head?_eq_some_iff.mp (ends name rfl)
  rwa [h.unique leaves.concat_closing]

/-- What follows the start tag of an element goes on with any event that does not end the element. -/
theorem exists_concat_within {before since : List Event} {tag : Tag} {event : Event}
    (within : LeavesOpen since inner) (noEnd : event ≠ .closing tag.name)
    (leaves : LeavesOpen (before ++ .opening tag :: since ++ [event]) opened) :
    ∃ names, LeavesOpen (since ++ [event]) names := by
  cases event with
  | text content => exact ⟨inner, within.append (.text .nil)⟩
  | empty tag => exact ⟨inner, within.append (.empty .nil)⟩
  | opening tag => exact ⟨tag.name :: inner, within.append (.unended .nil)⟩
  | closing name =>
    -- The innermost element is not that of the start tag, so that it has begun behind it.
    have hnames := leaves.of_concat_closing.foldl_openedAfter []
    rw [List.foldl_append, List.foldl_cons, within.foldl_openedAfter] at hnames
    cases inner with
    | nil =>
      have hname : tag.name = name := (List.cons.inj hnames).1
      exact absurd (congrArg Event.closing hname.symm) noEnd
    | cons first inner =>
      obtain ⟨rfl, -⟩ := List.cons.inj hnames
      exact ⟨inner, within.concat_closing⟩

/-- What is open has begun. -/
theorem exists_begins_of_mem (h : LeavesOpen events opened) (hname : name ∈ opened) :
    ∃ event ∈ events, event.Begins name := by
  induction h with
  | nil => cases hname
  | text _ ih => exact List.exists_mem_cons_of_exists (ih hname)
  | empty _ ih => exact List.exists_mem_cons_of_exists (ih hname)
  | ended _ _ _ ih =>
    obtain ⟨event, hevent, begins⟩ := ih hname
    refine ⟨event, List.mem_cons_of_mem _ (List.mem_append_right _ ?_), begins⟩
    exact List.mem_cons_of_mem _ hevent
  | @unended tag _ _ _ ih =>
    obtain hname | hname := List.mem_append.mp hname
    · exact List.exists_mem_cons_of_exists (ih hname)
    · exact ⟨.opening tag, List.mem_cons_self, (List.mem_singleton.mp hname).symm⟩

end LeavesOpen

/-! ### The events of a document -/

/-- Behind some events, those of tokens leave elements open, whatever is open in front of them. -/
theorem Reading.exists_leavesOpen_append {front : List Event} {opened : List String}
    (h : LeavesOpen front opened) (fault : Option Fault) (tokens : List Token) :
    ∃ names, LeavesOpen (front ++ (ofTokens fault opened tokens).events) names := by
  -- One event is taken to the front after the other, until there is a fault or nothing left.
  induction tokens generalizing front opened with
  | nil => exact ⟨opened, by rwa [ofTokens, List.append_nil]⟩
  | cons token tokens ih =>
    have further : ∀ {event : Event} {names : List String},
        LeavesOpen (front ++ [event]) names →
          ∃ others, LeavesOpen (front ++ (push event (ofTokens fault names tokens)).events) others := by
      intro event names leaves
      obtain ⟨others, hothers⟩ := ih leaves
      rw [List.append_assoc] at hothers
      exact ⟨others, hothers⟩
    have stays : ∃ names, LeavesOpen (front ++ []) names := ⟨opened, by rwa [List.append_nil]⟩
    cases token with
    | aside => exact ih h
    | cdata content => exact further (h.append (.text .nil))
    | text content =>
      rw [ofTokens]
      cases resolve content with
      | error fault => exact stays
      | ok content => exact further (h.append (.text .nil))
    | opening content => exact further (h.append (.unended .nil))
    | empty content => exact further (h.append (.empty .nil))
    | closing content =>
      cases opened with
      | nil => exact stays
      | cons expected opened =>
        by_cases hfound : closingName content = expected
        · subst hfound
          simp only [ofTokens, if_true]
          exact further h.concat_closing
        · simp only [ofTokens, if_neg hfound]
          exact stays

/-- At each place in a document its events leave elements open. -/
theorem exists_leavesOpen {document : String} {seen : List Event}
    (told : seen <+: (read document).events) : ∃ opened, LeavesOpen seen opened := by
  obtain ⟨names, leaves⟩ := Reading.exists_leavesOpen_append .nil
    (Tokens.ofText (dropMark document.toList)).fault (Tokens.ofText (dropMark document.toList)).tokens
  obtain ⟨rest, hrest⟩ := told
  have whole : LeavesOpen (seen ++ rest) names := by
    rw [hrest]
    exact leaves
  obtain ⟨opened, front, -⟩ := whole.exists_of_append
  exact ⟨opened, front⟩

/-! ### The texts at a place -/

/-- What an event says at a place, given the names of the elements that it stands in. -/
def Event.saidAt (place opened : List String) : Event → String
  | .text content => if opened = place then trim content else ""
  | .opening _ | .empty _ | .closing _ => ""

/-- What the texts in some events say that stand at a place, each without the white space around it, in
one. The place is told by the names of all the elements around it, the innermost first; those of the
elements that are open in front of the events are given. -/
def saidAt (place : List String) : List String → List Event → String
  | _, [] => ""
  | opened, event :: events =>
    event.saidAt place opened ++ saidAt place (event.openedAfter opened) events

theorem saidAt_concat (place opened : List String) (events : List Event) (event : Event) :
    saidAt place opened (events ++ [event]) =
      saidAt place opened events ++
        event.saidAt place (events.foldl Event.openedAfter opened) := by
  induction events generalizing opened with
  | nil => simp [saidAt]
  | cons first events ih =>
    rw [List.cons_append, saidAt, ih, saidAt, String.append_assoc]
    rfl

end Treble.Xml
