import Treble.Proofs.Vintf.ManifestHals
import Treble.Proofs.Vintf.ManifestRegisters

/-!
# Scans of manifests on their way

At each place in a document, the scan of a manifest holds what the document says of the elements that
are open there: their names, the text of a version of the policy only while one is open, and a HAL only
while one is open. The HAL that it holds is the one that began last, as long as that one is open, with
what the texts of its own fields have said so far. So nothing of it comes from another element, and
nothing of it is left behind its end.

## Main definitions

* `Vintf.HalEntry.ofEvents` — what the own fields of a HAL say in some events behind its start tag
* `Vintf.Collects` — the HAL that began last in some events is open, with what its own fields say
* `Vintf.ManifestScan.Mirrors` — a scan holds what some events say of the elements that are open

## Main results

* `Vintf.ManifestScan.hal_foldlM_of_hal` — what is collected of a HAL behind its start tag
* `Vintf.ManifestScan.exists_collects` — where a HAL is held, the one that began last is open
* `Vintf.ManifestScan.mirrors` — the scan behind any events whose end tags name what they end
* `Vintf.ManifestScan.mirrors_read` — the scan at any place in a document
-/

namespace Treble.Vintf

open Xml (Event LeavesOpen)

/-! ### What the own fields of a HAL say -/

/-- A HAL with what its own fields say in some events behind its start tag: the texts directly in the
`name` and the `transport` elements that are its children. -/
def HalEntry.ofEvents (since : List Event) : HalEntry :=
  { name := Xml.saidAt ["name"] [] since
    transport := Xml.saidAt ["transport"] [] since }

section OfEvents

variable {since : List Event} {inner : List String}

/-- An event that is no text in a field says nothing of the HAL. -/
theorem HalEntry.ofEvents_concat_of_silent {event : Event}
    (silent : ∀ field, event.saidAt [field] (since.foldl Event.openedAfter []) = "") :
    ofEvents (since ++ [event]) = ofEvents since := by
  rw [ofEvents, ofEvents, Xml.saidAt_concat, Xml.saidAt_concat, silent, silent,
    String.append_empty, String.append_empty]

/-- A text in an element of the HAL is one more text of that field. -/
theorem HalEntry.ofEvents_concat_text {field : String} (leaves : LeavesOpen since [field])
    (content : String) :
    ofEvents (since ++ [.text content]) = (ofEvents since).append field (Text.trim content) := by
  have hopened : since.foldl Event.openedAfter [] = [field] := leaves.foldl_openedAfter []
  rw [ofEvents, ofEvents, Xml.saidAt_concat, Xml.saidAt_concat, hopened, append]
  simp only [Event.saidAt, List.cons.injEq, and_true]
  split_ifs <;> simp

/-- A text elsewhere in the HAL says nothing of it. -/
theorem HalEntry.ofEvents_concat_text_of_ne (leaves : LeavesOpen since inner)
    (elsewhere : ∀ field, inner ≠ [field]) (content : String) :
    ofEvents (since ++ [.text content]) = ofEvents since := by
  apply ofEvents_concat_of_silent
  intro field
  rw [leaves.foldl_openedAfter, List.append_nil, Event.saidAt, if_neg (elsewhere field)]

end OfEvents

/-- In some events a HAL has begun that has not ended, with no other one behind its start tag, and this
is what its own fields say. -/
inductive Collects : List Event → HalEntry → Prop
  | hal (before : List Event) {tag : Xml.Tag} {since : List Event} {inner : List String}
      (isHal : tag.name = "hal") (last : ∀ event ∈ since, ¬ event.Begins "hal")
      (within : LeavesOpen since inner) :
      Collects (before ++ .opening tag :: since) (.ofEvents since)

/-- A HAL goes on with an event that neither ends a HAL nor begins one. -/
theorem Collects.concat {seen : List Event} {entry : HalEntry} (collects : Collects seen entry)
    {event : Event} {opened : List String} (noBegin : ¬ event.Begins "hal")
    (noEnd : event ≠ .closing "hal") (leaves : LeavesOpen (seen ++ [event]) opened) :
    ∃ entry, Collects (seen ++ [event]) entry := by
  cases collects with
  | @hal before tag since inner isHal last within =>
    rw [← isHal] at noEnd
    obtain ⟨names, hnames⟩ := within.exists_concat_within noEnd leaves
    refine ⟨.ofEvents (since ++ [event]), ?_⟩
    rw [List.append_assoc]
    refine .hal before isHal (fun e he => ?_) hnames
    obtain he | he := List.mem_append.mp he
    · exact last e he
    · rwa [List.mem_singleton.mp he]

namespace ManifestScan

variable {scan next final : ManifestScan} {event : Event} {seen since : List Event}
  {opened inner outer : List String} {entry : HalEntry}

/-- The names that a scan holds are those of the open elements. -/
theorem opened_eq_of_leavesOpen (leaves : LeavesOpen seen opened)
    (reached : seen.foldlM step {} = .ok scan) : scan.opened = opened := by
  rw [opened_foldlM reached]
  exact (leaves.foldl_openedAfter []).trans (List.append_nil opened)

/-! ### What is collected of a HAL -/

/-- A text in a HAL, at any depth, is collected if it stands in a field. -/
theorem hal_addText_within (h : scan.opened = inner ++ "hal" :: outer)
    (holds : scan.hal = some (.ofEvents since)) (within : LeavesOpen since inner)
    (noHal : "hal" ∉ inner) (content : String) :
    (scan.addText (Text.trim content)).hal = some (.ofEvents (since ++ [.text content])) := by
  -- The text stands directly in the HAL, in one of its children, or deeper.
  match inner, h, within, noHal with
  | [], h, within, _ =>
    rw [hal_addText_of_hal h, holds, HalEntry.ofEvents_concat_text_of_ne within (by simp)]
  | [field], h, within, _ =>
    rw [hal_addText_of_field h, holds, HalEntry.ofEvents_concat_text within]
    rfl
  | first :: second :: rest, h, within, noHal =>
    -- Its parent is open within the HAL, so that it is no HAL.
    have deeper : scan.opened.tail.head? ≠ some "hal" := by
      rw [h]
      intro hsecond
      obtain rfl := Option.some.inj hsecond
      simp at noHal
    rw [hal_addText_of_ne deeper, holds, HalEntry.ofEvents_concat_text_of_ne within (by simp)]

/-- Within a HAL a step collects what its own fields say. -/
theorem hal_step_within (h : scan.opened = inner ++ "hal" :: outer)
    (holds : scan.hal = some (.ofEvents since)) (within : LeavesOpen since inner)
    (noHal : "hal" ∉ inner) (noBegin : ¬ event.Begins "hal")
    (ends : ∀ name, event = .closing name → inner.head? = some name)
    (hstep : scan.step event = .ok next) : next.hal = some (.ofEvents (since ++ [event])) := by
  obtain ⟨tag, level, rfl, -, rfl⟩ | ⟨tag, level, rfl, -, rfl⟩ | ⟨name, rfl, rfl⟩ |
    ⟨text, rfl, rfl⟩ := step_cases hstep
  · rw [HalEntry.ofEvents_concat_of_silent fun _ => rfl]
    exact (hal_enterInner_of_ne noBegin).trans holds
  · have hname : tag.name ≠ "hal" := noBegin
    rw [HalEntry.ofEvents_concat_of_silent fun _ => rfl, hal_leave rfl, if_neg hname]
    exact (hal_enterInner_of_ne hname).trans holds
  · -- What ends is an element in the HAL, and no HAL.
    obtain ⟨rest, rfl⟩ := List.head?_eq_some_iff.mp (ends name rfl)
    have hname : name ≠ "hal" := fun heq => noHal (heq ▸ List.mem_cons_self)
    rw [HalEntry.ofEvents_concat_of_silent fun _ => rfl, hal_leave h, if_neg hname, holds]
  · exact hal_addText_within h holds within noHal text

/-- Behind the start tag of a HAL its own fields are collected, as long as it has not ended and no other
one has begun. -/
theorem hal_foldlM_of_hal (h : scan.opened = "hal" :: outer) (fresh : scan.hal = some {})
    (last : ∀ event ∈ since, ¬ event.Begins "hal") (within : LeavesOpen since inner)
    (reached : since.foldlM step scan = .ok final) : final.hal = some (.ofEvents since) := by
  -- The induction is on the last event. What is open within the HAL is told by those in front of it.
  induction since using List.reverseRecOn generalizing inner final with
  | nil =>
    cases reached
    exact fresh
  | append_singleton since event ih =>
    obtain ⟨inner, front, ends⟩ := within.exists_of_append
    obtain ⟨next, hnext, hstep⟩ := foldlM_concat_eq_ok_iff.mp reached
    obtain ⟨lastFront, lastEvent⟩ := List.forall_mem_append.mp last
    have hopened : next.opened = inner ++ "hal" :: outer := by
      rw [opened_foldlM hnext, h, front.foldl_openedAfter]
    have noHal : "hal" ∉ inner := by
      intro hmem
      obtain ⟨e, he, begins⟩ := front.exists_begins_of_mem hmem
      exact lastFront e he begins
    exact hal_step_within hopened (ih lastFront front hnext) front noHal
      (lastEvent event (List.mem_singleton_self event))
      (fun name hname => ends name (congrArg some hname)) hstep

/-- What is said to be collected is held. -/
theorem hal_eq_of_collects (collects : Collects seen entry)
    (reached : seen.foldlM step {} = .ok final) : final.hal = some entry := by
  cases collects with
  | @hal before tag since inner isHal last within =>
    obtain ⟨front, -, hrest⟩ := foldlM_append_eq_ok_iff.mp reached
    obtain ⟨entered, hentered, hsince⟩ := foldlM_cons_eq_ok_iff.mp hrest
    obtain ⟨_, level, ⟨⟩, -, rfl⟩ | ⟨_, _, ⟨⟩, _⟩ | ⟨_, ⟨⟩, _⟩ | ⟨_, ⟨⟩, _⟩ := step_cases hentered
    have hopened : ((front.enterInner tag.name).atLevel level).opened = "hal" :: front.opened :=
      congrArg (· :: front.opened) isHal
    exact hal_foldlM_of_hal hopened (if_pos isHal) last within hsince

/-- Where a HAL is held behind a step, it has begun with it, or one was held in front and goes on. -/
theorem hal_step_ne_none (ends : ∀ name, event = .closing name → scan.opened.head? = some name)
    (hstep : scan.step event = .ok next) (holds : next.hal ≠ none) :
    (∃ tag, event = .opening tag ∧ tag.name = "hal") ∨
      scan.hal ≠ none ∧ ¬ event.Begins "hal" ∧ event ≠ .closing "hal" := by
  obtain ⟨tag, level, rfl, -, rfl⟩ | ⟨tag, level, rfl, -, rfl⟩ | ⟨name, rfl, rfl⟩ |
    ⟨text, rfl, rfl⟩ := step_cases hstep
  · by_cases hname : tag.name = "hal"
    · exact .inl ⟨tag, rfl, hname⟩
    · refine .inr ⟨fun hnone => holds ?_, hname, by simp⟩
      exact (hal_enterInner_of_ne hname).trans hnone
  · rw [hal_leave rfl] at holds
    by_cases hname : tag.name = "hal"
    · exact absurd (if_pos hname) holds
    · rw [if_neg hname] at holds
      refine .inr ⟨fun hnone => holds ?_, hname, by simp⟩
      exact (hal_enterInner_of_ne hname).trans hnone
  · obtain ⟨outer, hopened⟩ := List.head?_eq_some_iff.mp (ends name rfl)
    rw [hal_leave hopened] at holds
    by_cases hname : name = "hal"
    · exact absurd (if_pos hname) holds
    · rw [if_neg hname] at holds
      exact .inr ⟨holds, id, by simpa using hname⟩
  · exact .inr ⟨fun hnone => holds (hal_addText_of_none hnone _), id, by simp⟩

/-- Where a HAL is held, the one that began last is open. -/
theorem exists_collects (leaves : LeavesOpen seen opened)
    (reached : seen.foldlM step {} = .ok final) (holds : final.hal ≠ none) :
    ∃ entry, Collects seen entry := by
  -- Followed back from the last event, the HAL goes on up to the start tag with which it began.
  induction seen using List.reverseRecOn generalizing opened final with
  | nil =>
    cases reached
    exact absurd rfl holds
  | append_singleton seen event ih =>
    obtain ⟨names, front, ends⟩ := leaves.exists_of_append
    obtain ⟨next, hnext, hstep⟩ := foldlM_concat_eq_ok_iff.mp reached
    have hends : ∀ name, event = .closing name → next.opened.head? = some name := by
      intro name hname
      rw [opened_eq_of_leavesOpen front hnext]
      exact ends name (congrArg some hname)
    obtain ⟨tag, rfl, isHal⟩ | ⟨held, noBegin, noEnd⟩ := hal_step_ne_none hends hstep holds
    · exact ⟨.ofEvents [], .hal seen isHal (by simp) .nil⟩
    · obtain ⟨entry, collects⟩ := ih front hnext held
      exact collects.concat noBegin noEnd leaves

/-- What is held of a HAL is what its own fields have said, if it is open and began last. -/
theorem hal_eq_some_iff_collects (leaves : LeavesOpen seen opened)
    (reached : seen.foldlM step {} = .ok final) : final.hal = some entry ↔ Collects seen entry := by
  constructor
  · intro holds
    obtain ⟨other, collects⟩ := exists_collects leaves reached (by simp [holds])
    obtain rfl := Option.some.inj (holds.symm.trans (hal_eq_of_collects collects reached))
    exact collects
  · exact fun collects => hal_eq_of_collects collects reached

/-! ### The scan at a place in a document -/

/-- A scan holds what some events say of the elements that are open behind them. -/
structure Mirrors (scan : ManifestScan) (seen : List Event) : Prop where
  /-- The names are those of the open elements. -/
  opened : ∀ names, LeavesOpen seen names ↔ names = scan.opened
  /-- Nothing is held of a version or a HAL that is not open. -/
  settled : scan.Settled
  /-- Of a HAL, the texts of its own fields are held, if it began last. -/
  hal : ∀ entry, scan.hal = some entry ↔ Collects seen entry

/-- Behind events whose end tags name what they end, a scan holds what they say of the open elements. -/
theorem mirrors (leaves : LeavesOpen seen opened) (reached : seen.foldlM step {} = .ok scan) :
    scan.Mirrors seen where
  opened names := by
    rw [opened_eq_of_leavesOpen leaves reached]
    constructor
    · exact fun other => other.unique leaves
    · rintro rfl
      exact leaves
  settled := Settled.foldlM ⟨fun _ => rfl, fun _ => rfl⟩ reached
  hal _ := hal_eq_some_iff_collects leaves reached

/-- At each place in a document, up to the first fault, a scan holds what the document says of the
elements that are open there. An end tag takes away the name that it has. An element that begins and
ends at once is open in between. -/
theorem mirrors_read {document : String} (told : seen <+: (Xml.read document).events)
    (reached : seen.foldlM step {} = .ok scan) :
    scan.Mirrors seen ∧
      (∀ name, seen ++ [.closing name] <+: (Xml.read document).events →
        ∃ outer, scan.opened = name :: outer ∧ scan.leave.opened = outer) ∧
      ∀ tag within, scan.enter tag = .ok within →
        within.Mirrors (seen ++ [.opening tag]) ∧
          within.opened = tag.name :: scan.opened ∧ within.leave.opened = scan.opened := by
  obtain ⟨opened, leaves⟩ := Xml.exists_leavesOpen told
  refine ⟨mirrors leaves reached, fun name ended => ?_, fun tag within entered => ?_⟩
  · obtain ⟨outer, behind⟩ := Xml.exists_leavesOpen ended
    have hopened := opened_eq_of_leavesOpen behind.of_concat_closing reached
    exact ⟨outer, hopened, opened_leave hopened⟩
  · have hwithin : (seen ++ [Event.opening tag]).foldlM step {} = .ok within :=
      foldlM_concat_eq_ok_iff.mpr ⟨scan, reached, entered⟩
    have hopened : within.opened = tag.name :: scan.opened := @opened_step _ _ (.opening tag) entered
    exact ⟨mirrors (leaves.append (.unended .nil)) hwithin, hopened, opened_leave hopened⟩

/-- Behind a root, a HAL in a HAL in a version of the policy. -/
def halsInVersion : String :=
  "<x/><manifest><sepolicy><version>30<hal><name>a</name><hal><name> b </name></hal></hal></version>" ++
    "</sepolicy></manifest>"

/-- The events of that document up to the text of the inner HAL. -/
def openHals : List Event := (Xml.read halsInVersion).events.take 12

/-- The scan there. -/
def openHalsScan : ManifestScan :=
  { opened := ["name", "hal", "hal", "version", "sepolicy", "manifest"]
    versionText := "30"
    hal := some { name := "b" } }

/-- Within the inner HAL nothing is held of the outer one. -/
theorem mirrors_read_openHals :
    openHals <+: (Xml.read halsInVersion).events ∧ openHals.foldlM step {} = .ok openHalsScan ∧
      openHals ++ [.closing "name"] <+: (Xml.read halsInVersion).events ∧
      openHalsScan.Mirrors openHals ∧ Collects openHals { name := "b" } ∧
      (∃ outer, openHalsScan.opened = "name" :: outer ∧ openHalsScan.leave.opened = outer) ∧
      ∃ within, openHalsScan.enter ⟨"y", []⟩ = .ok within ∧
        within.Mirrors (openHals ++ [.opening ⟨"y", []⟩]) := by
  have told : openHals <+: (Xml.read halsInVersion).events := List.take_prefix 12 _
  have reached : openHals.foldlM step {} = .ok openHalsScan := by decide +kernel
  have ended : openHals ++ [.closing "name"] <+: (Xml.read halsInVersion).events := by
    have hended : openHals ++ [.closing "name"] = (Xml.read halsInVersion).events.take 13 := by decide +kernel
    rw [hended]
    exact List.take_prefix 13 _
  obtain ⟨mirrors, ends, begins⟩ := mirrors_read told reached
  have hopened : openHalsScan.opened ≠ [] := by decide
  have hbegins := enter_of_opened hopened ⟨"y", []⟩
  exact ⟨told, reached, ended, mirrors, (mirrors.hal _).mp rfl, ends "name" ended, _, hbegins,
    (begins _ _ hbegins).1⟩

end ManifestScan

end Treble.Vintf
