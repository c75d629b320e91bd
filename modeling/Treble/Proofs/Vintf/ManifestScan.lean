import Mathlib.Tactic.SplitIfs
import Treble.Vintf.Manifest
import Treble.Xml.Tree.Reading

/-!
# Scans of canonical manifests

The events of an element tree drive a scan of a manifest. Inside an element no event can fail, so
that what a content does to the scan is a function of the scan, which follows the tree in place of
the events. The parts of the scan are looked at one by one: of each, the steps that change it are
told here.

## Main definitions

* `Vintf.ManifestScan.after` — the scan behind a content
* `Vintf.ManifestScan.atLevel` — the scan at another level
* `Vintf.ManifestScan.start` — the scan in front of a root, with what its tag says

## Main results

* `Vintf.ManifestScan.leave_eq`, `Vintf.ManifestScan.addText_cases` — what the end of an element and
  a text can do
* `Vintf.ManifestScan.step_cases` — what an event can do
* `Vintf.ManifestScan.foldlM_keeps` — what each step keeps is kept by any events
* `Vintf.ManifestScan.foldlM_tells` — a content leads to the scan behind it in whatever way it is told
* `Vintf.ManifestFacts.parse_spelling` — the facts of the canonical spelling of a tree
-/

namespace Treble.Vintf

open Xml (Content)

/-- A HAL with more text in one of its fields. Other names are none of fields. -/
def HalEntry.append (hal : HalEntry) (key text : String) : HalEntry :=
  { name := if key = "name" then hal.name ++ text else hal.name
    transport := if key = "transport" then hal.transport ++ text else hal.transport }

theorem HalEntry.append_empty (key : String) : (fun hal : HalEntry => hal.append key "") = id := by
  funext hal
  simp [append]

theorem HalEntry.append_of_ne {key : String} (hname : key ≠ "name") (htransport : key ≠ "transport")
    {text : String} : (fun hal : HalEntry => hal.append key text) = id := by
  funext hal
  simp [append, hname, htransport]

namespace ManifestScan

variable {scan : ManifestScan} {name : String} {outer : List String}

/-- An element begins in another one, so that its attributes do not matter. -/
def enterInner (scan : ManifestScan) (name : String) : ManifestScan :=
  { scan with
    opened := name :: scan.opened
    hal := if name = "hal" then some {} else scan.hal }

@[simp] theorem opened_enterInner : (scan.enterInner name).opened = name :: scan.opened := rfl

/-- The scan behind a content. -/
def after (scan : ManifestScan) : Content → ManifestScan
  | .done => scan
  | .text content following => (scan.addText (Text.trim content)).after following
  | .element name _ children following =>
    ((scan.enterInner name).after children).leave.after following

/-! ### What the end of an element does -/

theorem leave_eq (h : scan.opened = name :: outer) :
    scan.leave =
      if name = "version" ∧ outer.head? = some "sepolicy" then
        { scan with
          opened := outer
          versions := scan.versionText :: scan.versions
          versionText := "" }
      else if name = "hal" then
        { scan with opened := outer, hal := none, passthroughHals := scan.collect }
      else { scan with opened := outer } := by
  simp only [leave, h]

theorem opened_leave (h : scan.opened = name :: outer) : scan.leave.opened = outer := by
  rw [leave_eq h]
  split_ifs <;> rfl

theorem targetLevel_leave (h : scan.opened = name :: outer) :
    scan.leave.targetLevel = scan.targetLevel := by
  rw [leave_eq h]
  split_ifs <;> rfl

theorem hal_leave (h : scan.opened = name :: outer) :
    scan.leave.hal = if name = "hal" then none else scan.hal := by
  rw [leave_eq h]
  split_ifs <;> simp_all

theorem passthroughHals_leave (h : scan.opened = name :: outer) :
    scan.leave.passthroughHals =
      if name = "hal" then scan.collect else scan.passthroughHals := by
  rw [leave_eq h]
  split_ifs <;> simp_all

theorem versions_leave (h : scan.opened = name :: outer) :
    scan.leave.versions =
      if name = "version" ∧ outer.head? = some "sepolicy" then scan.versionText :: scan.versions
      else scan.versions := by
  rw [leave_eq h]
  split_ifs <;> rfl

theorem versionText_leave (h : scan.opened = name :: outer) :
    scan.leave.versionText =
      if name = "version" ∧ outer.head? = some "sepolicy" then "" else scan.versionText := by
  rw [leave_eq h]
  split_ifs <;> rfl

/-! ### What a text does -/

/-- A text in a version of the policy is collected. -/
theorem addText_of_version (h : scan.opened = "version" :: "sepolicy" :: outer) (text : String) :
    scan.addText text = { scan with versionText := scan.versionText ++ text } := by
  simp only [addText, h]

/-- A text in an element of a HAL is collected. -/
theorem addText_of_field (h : scan.opened = name :: "hal" :: outer) (text : String) :
    scan.addText text = { scan with hal := scan.hal.map (·.append name text) } := by
  by_cases hname : name = "name"
  · subst hname
    simp only [addText, h]
    rfl
  · by_cases htransport : name = "transport"
    · subst htransport
      simp only [addText, h]
      rfl
    -- No other element of a HAL is a field.
    · have hsame : scan.addText text = scan := by
        unfold addText
        split <;> simp_all
      rw [hsame, HalEntry.append_of_ne hname htransport, Option.map_id]
      rfl

/-- A text elsewhere is passed over. -/
theorem addText_of_ne (noVersion : ∀ outer, scan.opened ≠ "version" :: "sepolicy" :: outer)
    (noField : ∀ name outer, scan.opened ≠ name :: "hal" :: outer) (text : String) :
    scan.addText text = scan := by
  unfold addText
  split
  · next h => exact absurd h (noVersion _)
  · next h => exact absurd h (noField _ _)
  · next h => exact absurd h (noField _ _)
  · rfl

/-- All that a text can do. -/
theorem addText_cases (scan : ManifestScan) (text : String) :
    (∃ outer, scan.opened = "version" :: "sepolicy" :: outer ∧
      scan.addText text = { scan with versionText := scan.versionText ++ text }) ∨
    (∃ name outer, scan.opened = name :: "hal" :: outer ∧
      scan.addText text = { scan with hal := scan.hal.map (·.append name text) }) ∨
    scan.addText text = scan := by
  by_cases version : ∃ outer, scan.opened = "version" :: "sepolicy" :: outer
  · obtain ⟨outer, h⟩ := version
    exact .inl ⟨outer, h, addText_of_version h text⟩
  · by_cases field : ∃ name outer, scan.opened = name :: "hal" :: outer
    · obtain ⟨name, outer, h⟩ := field
      exact .inr (.inl ⟨name, outer, h, addText_of_field h text⟩)
    · have noField : ∀ name outer, scan.opened ≠ name :: "hal" :: outer :=
        fun name outer h => field ⟨name, outer, h⟩
      exact .inr (.inr (addText_of_ne (not_exists.mp version) noField text))

@[simp] theorem opened_addText (text : String) : (scan.addText text).opened = scan.opened := by
  obtain ⟨_, _, h⟩ | ⟨_, _, _, h⟩ | h := scan.addText_cases text <;> rw [h]

@[simp] theorem targetLevel_addText (text : String) :
    (scan.addText text).targetLevel = scan.targetLevel := by
  obtain ⟨_, _, h⟩ | ⟨_, _, _, h⟩ | h := scan.addText_cases text <;> rw [h]

@[simp] theorem passthroughHals_addText (text : String) :
    (scan.addText text).passthroughHals = scan.passthroughHals := by
  obtain ⟨_, _, h⟩ | ⟨_, _, _, h⟩ | h := scan.addText_cases text <;> rw [h]

@[simp] theorem versions_addText (text : String) :
    (scan.addText text).versions = scan.versions := by
  obtain ⟨_, _, h⟩ | ⟨_, _, _, h⟩ | h := scan.addText_cases text <;> rw [h]

theorem versionText_addText_of_version (h : scan.opened = "version" :: "sepolicy" :: outer)
    (text : String) : (scan.addText text).versionText = scan.versionText ++ text := by
  rw [addText_of_version h]

theorem versionText_addText_of_ne (h : ∀ outer, scan.opened ≠ "version" :: "sepolicy" :: outer)
    (text : String) : (scan.addText text).versionText = scan.versionText := by
  obtain ⟨outer, hversion, _⟩ | ⟨_, _, _, heq⟩ | heq := scan.addText_cases text
  · exact absurd hversion (h outer)
  · rw [heq]
  · rw [heq]

theorem hal_addText_of_field (h : scan.opened = name :: "hal" :: outer) (text : String) :
    (scan.addText text).hal = scan.hal.map (·.append name text) := by
  rw [addText_of_field h]

theorem hal_addText_of_ne (h : scan.opened.tail.head? ≠ some "hal") (text : String) :
    (scan.addText text).hal = scan.hal := by
  obtain ⟨_, _, heq⟩ | ⟨name, outer, hfield, _⟩ | heq := scan.addText_cases text
  · rw [heq]
  · rw [hfield] at h
    exact absurd rfl h
  · rw [heq]

/-- An empty text does nothing. -/
@[simp] theorem addText_empty : scan.addText "" = scan := by
  obtain ⟨_, _, h⟩ | ⟨name, _, _, h⟩ | h := scan.addText_cases ""
  · rw [h, String.append_empty]
  · rw [h, HalEntry.append_empty, Option.map_id]
    rfl
  · exact h

/-! ### What a step does -/

theorem leave_of_nil (h : scan.opened = []) : scan.leave = scan := by
  simp only [leave, h]

/-- The scan at another level. -/
def atLevel (scan : ManifestScan) (level : Option String) : ManifestScan :=
  { scan with targetLevel := level }

theorem enter_eq (scan : ManifestScan) (tag : Xml.Tag) :
    scan.enter tag = (scan.levelAfter tag).map (scan.enterInner tag.name).atLevel := rfl

/-- All that a step can do. -/
theorem step_cases {event : Xml.Event} {next : ManifestScan} (h : scan.step event = .ok next) :
    (∃ tag level, event = .opening tag ∧ scan.levelAfter tag = .ok level ∧
      next = (scan.enterInner tag.name).atLevel level) ∨
    (∃ tag level, event = .empty tag ∧ scan.levelAfter tag = .ok level ∧
      next = ((scan.enterInner tag.name).atLevel level).leave) ∨
    (∃ name, event = .closing name ∧ next = scan.leave) ∨
    ∃ text, event = .text text ∧ next = scan.addText (Text.trim text) := by
  cases event with
  | opening tag =>
    rw [step, enter_eq] at h
    cases hlevel : scan.levelAfter tag with
    | error fault => rw [hlevel] at h; cases h
    | ok level =>
      rw [hlevel] at h
      exact .inl ⟨tag, level, rfl, hlevel, (Except.ok.inj h).symm⟩
  | empty tag =>
    rw [step, enter_eq] at h
    cases hlevel : scan.levelAfter tag with
    | error fault => rw [hlevel] at h; cases h
    | ok level =>
      rw [hlevel] at h
      exact .inr (.inl ⟨tag, level, rfl, hlevel, (Except.ok.inj h).symm⟩)
  | closing name => exact .inr (.inr (.inl ⟨name, rfl, (Except.ok.inj h).symm⟩))
  | text text => exact .inr (.inr (.inr ⟨text, rfl, (Except.ok.inj h).symm⟩))

/-! ### The scan behind a content -/

theorem opened_after (scan : ManifestScan) (content : Content) :
    (scan.after content).opened = scan.opened := by
  induction content generalizing scan with
  | done => rfl
  | text content following ih => rw [after, ih, opened_addText]
  | element name attributes children following ihChildren ihFollowing =>
    have hend := (ihChildren (scan.enterInner name)).trans opened_enterInner
    rw [after, ihFollowing, opened_leave hend]

/-- At the end of an element it is the innermost one. -/
theorem opened_after_enterInner {content : Content} :
    ((scan.enterInner name).after content).opened = name :: scan.opened :=
  opened_after _ _

/-- Behind an element the same elements are open as in front of it. -/
theorem opened_leave_after {content : Content} :
    ((scan.enterInner name).after content).leave.opened = scan.opened :=
  opened_leave opened_after_enterInner

theorem targetLevel_after (scan : ManifestScan) (content : Content) :
    (scan.after content).targetLevel = scan.targetLevel := by
  induction content generalizing scan with
  | done => rfl
  | text content following ih => rw [after, ih, targetLevel_addText]
  | element name attributes children following ihChildren ihFollowing =>
    rw [after, ihFollowing, targetLevel_leave opened_after_enterInner, ihChildren]
    rfl

theorem foldlM_cons_of_ok {event : Xml.Event} {next : ManifestScan}
    (h : scan.step event = .ok next) (rest : List Xml.Event) :
    (event :: rest).foldlM step scan = rest.foldlM step next := by
  rw [List.foldlM_cons, h]
  rfl

theorem foldlM_append_of_ok {events : List Xml.Event} {next : ManifestScan}
    (h : events.foldlM step scan = .ok next) (rest : List Xml.Event) :
    (events ++ rest).foldlM step scan = rest.foldlM step next := by
  rw [List.foldlM_append, h]
  rfl

theorem foldlM_append_eq_ok_iff {events rest : List Xml.Event} {final : ManifestScan} :
    (events ++ rest).foldlM step scan = .ok final ↔
      ∃ reached, events.foldlM step scan = .ok reached ∧ rest.foldlM step reached = .ok final := by
  rw [List.foldlM_append]
  cases hevents : events.foldlM step scan with
  | error fault => simp [bind, Except.bind]
  | ok reached => simp [bind, Except.bind]

theorem foldlM_cons_eq_ok_iff {event : Xml.Event} {rest : List Xml.Event} {final : ManifestScan} :
    (event :: rest).foldlM step scan = .ok final ↔
      ∃ next, scan.step event = .ok next ∧ rest.foldlM step next = .ok final := by
  rw [List.foldlM_cons]
  cases hstep : scan.step event with
  | error fault => simp [bind, Except.bind]
  | ok next => simp [bind, Except.bind]

theorem foldlM_concat_eq_ok_iff {events : List Xml.Event} {event : Xml.Event}
    {final : ManifestScan} :
    (events ++ [event]).foldlM step scan = .ok final ↔
      ∃ reached, events.foldlM step scan = .ok reached ∧ reached.step event = .ok final := by
  simp only [foldlM_append_eq_ok_iff, foldlM_cons_eq_ok_iff, List.foldlM_nil, pure, Except.pure,
    Except.ok.injEq, exists_eq_right]

/-- What each step keeps is kept by any events. -/
theorem foldlM_keeps {P : ManifestScan → Prop}
    (keeps : ∀ {scan event next}, P scan → scan.step event = .ok next → P next)
    {events : List Xml.Event} {final : ManifestScan} (h : P scan)
    (reached : events.foldlM step scan = .ok final) : P final := by
  induction events generalizing scan with
  | nil =>
    cases reached
    exact h
  | cons event events ih =>
    obtain ⟨next, hnext, hfinal⟩ := foldlM_cons_eq_ok_iff.mp reached
    exact ih (keeps h hnext) hfinal

/-- Inside an element a start tag is not looked into. -/
theorem enter_of_opened (h : scan.opened ≠ []) (tag : Xml.Tag) :
    scan.enter tag = .ok (scan.enterInner tag.name) := by
  have hlevel : scan.levelAfter tag = .ok scan.targetLevel := if_neg fun hroot => h hroot.2.1
  rw [enter, hlevel]
  rfl

/-- Inside an element, a content leads to the scan behind it, in whatever way a reader is told of it. -/
theorem foldlM_tells {content : Content} {events : List Xml.Event} (tells : content.Tells events)
    (h : scan.opened ≠ []) : events.foldlM step scan = .ok (scan.after content) := by
  -- The induction is on the telling. That some element is open stays true in it: within the children
  -- there is one more, and behind them there are the same as before.
  induction tells generalizing scan with
  | done => rfl
  | @text content told following events same rest ih =>
    have hstep : scan.step (.text told) = .ok (scan.addText (Text.trim content)) := by
      rw [step, same]
    rw [foldlM_cons_of_ok hstep]
    exact ih (by rwa [opened_addText])
  | blank nothing rest ih => rw [after, nothing, addText_empty, ih h]
  | @element tag attributes children following inner events within rest ihWithin ihRest =>
    have hstep : scan.step (.opening tag) = .ok (scan.enterInner tag.name) := enter_of_opened h tag
    have hwithin : (scan.enterInner tag.name).opened ≠ [] := List.cons_ne_nil _ _
    have hclose : ((scan.enterInner tag.name).after children).step (.closing tag.name) =
        .ok ((scan.enterInner tag.name).after children).leave := rfl
    have hbehind : ((scan.enterInner tag.name).after children).leave.opened ≠ [] := by
      rwa [opened_leave_after]
    rw [foldlM_cons_of_ok hstep, foldlM_append_of_ok (ihWithin hwithin), foldlM_cons_of_ok hclose,
      ihRest hbehind]
    rfl

/-- The scan in front of a root, with the level that its tag names. -/
def start (name : String) (attributes : List (String × String)) : ManifestScan :=
  { targetLevel := if name = "manifest" then attributes.lookup "target-level" else none }

/-- The events of a whole tree lead to the scan behind it. -/
theorem foldlM_events_root {name : String} {attributes : List (String × String)}
    {children : Content} (h : ∀ entry ∈ attributes, Xml.IsName entry.1) :
    (Content.element name attributes children .done).events.foldlM step {} =
      .ok ((start name attributes).after (.element name attributes children .done)) := by
  have hlevel : levelAfter {} (.canonical name attributes) =
      .ok (start name attributes).targetLevel := by
    rw [levelAfter, start]
    by_cases hname : name = "manifest"
    · rw [if_pos ⟨hname, rfl, rfl⟩, Xml.Tag.attribute?_canonical h, if_pos hname]
    · rw [if_neg fun hroot => hname hroot.1, if_neg hname]
  have hstep : step {} (.opening (.canonical name attributes)) =
      .ok ((start name attributes).enterInner name) := by
    rw [step, enter, hlevel]
    rfl
  have hwithin : ((start name attributes).enterInner name).opened ≠ [] := List.cons_ne_nil _ _
  have hchildren := foldlM_tells children.tells_events hwithin
  rw [Content.events, foldlM_cons_of_ok hstep, foldlM_append_of_ok hchildren]
  rfl

end ManifestScan

/-- The canonical spelling of a tree is read without a fault, and its facts are those of the scan
behind the tree. -/
theorem ManifestFacts.ofDocument_spelling (path : String) {name : String}
    {attributes : List (String × String)} {children : Content}
    (well : (Content.element name attributes children .done).WellFormed) :
    ofDocument path (String.ofList (Content.element name attributes children .done).spelling) =
      .ok ((ManifestScan.start name attributes).after
        (.element name attributes children .done)).facts := by
  rw [ofDocument, Xml.read_spelling well, ofReading, ManifestScan.foldlM_events_root well.2.1]
  rfl

theorem ManifestFacts.parse_spelling {name : String} {attributes : List (String × String)}
    {children : Content} (well : (Content.element name attributes children .done).WellFormed) :
    parse (String.ofList (Content.element name attributes children .done).spelling) =
      .ok ((ManifestScan.start name attributes).after
        (.element name attributes children .done)).facts :=
  ofDocument_spelling _ well

end Treble.Vintf
