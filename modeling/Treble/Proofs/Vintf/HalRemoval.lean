import Treble.Proofs.Vintf.ManifestInsertion

/-!
# HALs taken out of manifests

A scan of a manifest collects the HALs one by one and keeps nothing else of them. So a HAL can be taken
out of a document, from any place that is not in another HAL, and the document says the same without
the HAL: what it says is added to the rest. The documents may be written in any way, for which they
are looked at as a reader is told of them, tag by tag.

## Main definitions

* `Xml.expand` — a document in which elements begin and end in two tags
* `Vintf.Sheds` — a document and what is left of it without some of its HALs
* `Vintf.ChildOfRoot`, `Vintf.OutsideHals` — which HALs are taken out
* `Vintf.passthroughsOf` — the names of the passthrough HALs among those taken out

## Main results

* `Vintf.ManifestScan.Settled.gains_hal` — what a HAL adds to a scan
* `Vintf.Sheds.foldlM_eq` — what HALs that are taken out add to the rest
-/

namespace Treble

namespace Xml

/-- An event as the beginning and the end of an element, where it is both. -/
def Event.expanded : Event → List Event
  | .empty tag => [.opening tag, .closing tag.name]
  | event => [event]

/-- A document in which each element begins and ends in two events. -/
def expand (events : List Event) : List Event := events.flatMap Event.expanded

/-- In the canonical spelling, elements begin and end in two tags. -/
theorem expand_events (content : Content) : expand content.events = content.events := by
  induction content with
  | done => rfl
  | text content following ih =>
    rw [Content.events]
    split
    · exact ih
    · exact congrArg (_ :: ·) ih
  | element name attributes children following ihChildren ihFollowing =>
    rw [expand] at ihChildren ihFollowing
    rw [Content.events, expand, List.flatMap_cons, List.flatMap_append, List.flatMap_cons, ihChildren,
      ihFollowing]
    rfl

end Xml

namespace Vintf

open Xml (Content Event Tag)
open Text (NameSet)

/-- A document and what is left of it when HALs are taken out, given the elements that are open in front
of it, and which HALs may be taken out of which elements. Texts that stand in no element but the root
say nothing and may be left out as well. -/
inductive Sheds (allowed : List String → Content → Prop) :
    List String → List Event → List Event → List Content → Prop
  | done {opened : List String} : Sheds allowed opened [] [] []
  | keep {opened : List String} {event : Event} {events rest : List Event} {hals : List Content}
      (sheds : Sheds allowed (event.openedAfter opened) events rest hals) :
      Sheds allowed opened (event :: events) (event :: rest) hals
  | text {opened : List String} {content : String} {events rest : List Event} {hals : List Content}
      (outermost : opened.length ≤ 1) (sheds : Sheds allowed opened events rest hals) :
      Sheds allowed opened (.text content :: events) rest hals
  | hal {opened : List String} {tag : Tag} {children : Content} {inner events rest : List Event}
      {hals : List Content} (isHal : tag.name = "hal") (tells : children.Tells inner)
      (free : allowed opened children) (sheds : Sheds allowed opened events rest hals) :
      Sheds allowed opened (.opening tag :: (inner ++ .closing "hal" :: events)) rest
        (children :: hals)

/-- A HAL that is a child of a root, with neither HALs nor a policy in it. -/
def ChildOfRoot (opened : List String) (children : Content) : Prop :=
  opened.length = 1 ∧ children.Lacks "hal" ∧ children.Lacks "sepolicy"

/-- A HAL that is in some element but in no other HAL, with no policy in it. -/
def OutsideHals (opened : List String) (children : Content) : Prop :=
  opened ≠ [] ∧ "hal" ∉ opened ∧ children.Lacks "sepolicy"

section Sheds

variable {allowed : List String → Content → Prop}

/-- Nothing need be taken out. -/
theorem sheds_self (opened : List String) (events : List Event) :
    Sheds allowed opened events events [] := by
  induction events generalizing opened with
  | nil => exact .done
  | cons event events ih => exact .keep (ih _)

theorem sheds_spelling (tree : Content) :
    Sheds allowed [] (Xml.expand tree.events) tree.events [] := by
  rw [Xml.expand_events]
  exact sheds_self [] tree.events

/-- The first child of a root is taken out. -/
theorem sheds_firstChild {root : String} {fields : Content} (free : allowed [root] fields)
    (attributes : List (String × String)) (following : Content) :
    Sheds allowed []
      (Xml.expand
        (Content.element root attributes (.element "hal" [] fields following) .done).events)
      (Content.element root attributes following .done).events [fields] := by
  have hevents : (Content.element "hal" [] fields following).events ++ [.closing root] =
      .opening (.canonical "hal" []) ::
        (fields.events ++ .closing "hal" :: (following.events ++ [.closing root])) := by
    rw [Content.events]
    exact congrArg (_ :: ·) (List.append_assoc ..)
  rw [Xml.expand_events, Content.events, Content.events, hevents]
  exact .keep (.hal rfl fields.tells_events free (sheds_self [root] _))

end Sheds

/-- The names of the passthrough HALs among some with these contents. -/
def passthroughsOf : List Content → NameSet
  | [] => ∅
  | children :: hals => (ManifestScan.ofElement "hal" children).passthroughHals ∪ passthroughsOf hals

theorem mem_passthroughsOf {hals : List Content} {name : String} :
    name ∈ passthroughsOf hals ↔
      ∃ children ∈ hals, name ∈ (ManifestScan.ofElement "hal" children).passthroughHals := by
  induction hals with
  | nil => simp [passthroughsOf]
  | cons children hals ih => rw [passthroughsOf, NameSet.mem_union, ih, List.exists_mem_cons_iff]

/-- In whatever order HALs are looked at, they have the same names. -/
theorem passthroughsOf_eq_of_perm {hals others : List Content} (perm : others.Perm hals) :
    passthroughsOf others = passthroughsOf hals := by
  apply NameSet.ext
  intro name
  simp only [mem_passthroughsOf, perm.mem_iff]

/-- HALs with some names, and nothing else. -/
def ManifestFacts.ofHals (names : NameSet) : ManifestFacts :=
  { sepolicyVersion := none, passthroughHals := names, targetLevel := none }

namespace ManifestScan

variable {scan other next : ManifestScan} {texts : List String} {hals : NameSet}

/-! ### Documents that are told tag by tag -/

theorem foldlM_expanded (scan : ManifestScan) (event : Event) :
    event.expanded.foldlM step scan = scan.step event := by
  cases event with
  | empty tag =>
    rw [Event.expanded, List.foldlM_cons, step, step]
    cases scan.enter tag <;> rfl
  | opening | closing | text => exact List.foldlM_cons.trans (bind_pure _)

/-- A scan does not tell an element without a content from one that ends at once. -/
theorem foldlM_expand (scan : ManifestScan) (events : List Event) :
    (Xml.expand events).foldlM step scan = events.foldlM step scan := by
  induction events generalizing scan with
  | nil => rfl
  | cons event events ih =>
    rw [Xml.expand, List.flatMap_cons, List.foldlM_append, foldlM_expanded, List.foldlM_cons]
    congr 1
    funext next
    exact ih next

/-! ### What a step keeps -/

namespace Gains

theorem atLevel (gains : Gains texts hals scan other) (level : Option String) :
    Gains texts hals (scan.atLevel level) (other.atLevel level) :=
  ⟨gains.opened, gains.versionText, gains.hal, rfl, gains.versions, gains.passthroughHals⟩

theorem levelAfter (gains : Gains texts hals scan other) (tag : Tag) :
    other.levelAfter tag = scan.levelAfter tag := by
  simp only [ManifestScan.levelAfter, gains.opened, gains.targetLevel]

theorem trans {moreTexts : List String} {moreHals : NameSet} (gains : Gains texts hals scan other)
    (more : Gains moreTexts moreHals other next) :
    Gains (texts ++ moreTexts) (hals ∪ moreHals) scan next where
  opened := more.opened.trans gains.opened
  versionText := more.versionText.trans gains.versionText
  hal := more.hal.trans gains.hal
  targetLevel := more.targetLevel.trans gains.targetLevel
  versions text := by rw [more.versions, gains.versions, List.mem_append, or_assoc]
  passthroughHals hal := by
    rw [more.passthroughHals, gains.passthroughHals, NameSet.mem_union, or_assoc]

/-- A step ends both scans with the same fault, or leaves what was collected more as it is. -/
theorem step (gains : Gains texts hals scan other) (event : Event) :
    (∃ fault, scan.step event = .error fault ∧ other.step event = .error fault) ∨
      ∃ next next', scan.step event = .ok next ∧ other.step event = .ok next' ∧
        Gains texts hals next next' := by
  cases event with
  | opening tag =>
    rw [ManifestScan.step, ManifestScan.step, enter_eq, enter_eq, gains.levelAfter]
    cases scan.levelAfter tag with
    | error fault => exact .inl ⟨fault, rfl, rfl⟩
    | ok level => exact .inr ⟨_, _, rfl, rfl, (gains.enterInner tag.name).atLevel level⟩
  | empty tag =>
    rw [ManifestScan.step, ManifestScan.step, enter_eq, enter_eq, gains.levelAfter]
    cases scan.levelAfter tag with
    | error fault => exact .inl ⟨fault, rfl, rfl⟩
    | ok level => exact .inr ⟨_, _, rfl, rfl, ((gains.enterInner tag.name).atLevel level).leave rfl⟩
  | closing name =>
    refine .inr ⟨_, _, rfl, rfl, ?_⟩
    cases hopened : scan.opened with
    | nil => rwa [leave_of_nil hopened, leave_of_nil (gains.opened.trans hopened)]
    | cons name outer => exact gains.leave hopened
  | text text => exact .inr ⟨_, _, rfl, rfl, gains.addText _⟩

end Gains

/-! ### What a HAL adds -/

/-- What the end of a HAL adds to the passthrough HALs is what it adds where it stands alone. -/
theorem mem_passthroughHals_ofElement_hal (scan : ManifestScan) (children : Content) {name : String} :
    name ∈ ((scan.enterInner "hal").after children).leave.passthroughHals ↔
      name ∈ scan.passthroughHals ∨ name ∈ (ofElement "hal" children).passthroughHals := by
  rw [ofElement, mem_passthroughHals_leave_hal none, mem_passthroughHals_leave_hal none,
    mem_passthroughHals_after (scan.enterInner "hal") children none,
    mem_passthroughHals_after (enterInner {} "hal") children none, passthroughHals_enterInner,
    passthroughHals_enterInner, or_assoc]
  apply or_congr_right
  rw [or_iff_right (NameSet.not_mem_empty name)]

/-- A HAL that is in no other one adds its name, if it is a passthrough HAL, and nothing else. -/
theorem Settled.gains_hal (settled : scan.Settled) {children : Content}
    (outside : "hal" ∉ scan.opened) (noPolicy : children.Lacks "sepolicy") :
    Gains [] (ofElement "hal" children).passthroughHals scan
      ((scan.enterInner "hal").after children).leave := by
  have without : ∀ e ∈ children.elements (some "hal"), ¬ e.IsPolicyVersion :=
    Content.not_isPolicyVersion_of_lacks noPolicy (by decide)
  obtain ⟨htext, hversions⟩ := versions_leave_after_of_ne scan (by decide) without
  refine ⟨opened_leave_after, htext, ?_, ?_, fun text => ?_, fun name => ?_⟩
  · rw [hal_leave opened_after_enterInner, if_pos rfl, settled.hal outside]
  · rw [targetLevel_leave opened_after_enterInner, targetLevel_after]
    rfl
  · rw [hversions, or_iff_left List.not_mem_nil]
  · exact mem_passthroughHals_ofElement_hal scan children

/-- A text outside of all elements but one is passed over. -/
theorem addText_of_outermost (h : scan.opened.length ≤ 1) (text : String) :
    scan.addText text = scan := by
  apply addText_of_ne
  · intro outer hopened
    simp [hopened] at h
  · intro name outer hopened
    simp [hopened] at h

end ManifestScan

/-- What a document says is what is left of it says, and the names of the passthrough HALs that are
taken out. -/
theorem Sheds.foldlM_eq {events rest : List Event} {hals : List Content}
    {scan other : ManifestScan} {names : NameSet}
    (sheds : Sheds OutsideHals scan.opened events rest hals) (settled : other.Settled)
    (gains : ManifestScan.Gains [] names scan other) :
    (events.foldlM ManifestScan.step other).map ManifestScan.facts =
      (rest.foldlM ManifestScan.step scan).map fun final =>
        final.facts.adding (.ofHals (names ∪ passthroughsOf hals)) := by
  -- The induction is on what is taken out. The scan of the whole document is ahead of that of the rest
  -- by the names of the HALs that have been taken out so far.
  generalize hopened : scan.opened = opened at sheds
  induction sheds generalizing scan other names with
  | done =>
    have gains' : ManifestScan.Gains ({ passthroughHals := names } : ManifestScan).versions
        ({ passthroughHals := names } : ManifestScan).passthroughHals scan other := gains
    rw [passthroughsOf, NameSet.union_empty]
    exact congrArg Except.ok gains'.facts_eq
  | @keep opened event events rest hals sheds ih =>
    obtain ⟨fault, hscan, hother⟩ | ⟨next, next', hscan, hother, hgains⟩ := gains.step event
    · rw [List.foldlM_cons, List.foldlM_cons, hscan, hother]
      rfl
    · rw [ManifestScan.foldlM_cons_of_ok hscan, ManifestScan.foldlM_cons_of_ok hother]
      exact ih (settled.step hother) hgains (by rw [ManifestScan.opened_step hscan, hopened])
  | @text opened content events rest hals outermost sheds ih =>
    have houter : other.opened.length ≤ 1 := by rwa [gains.opened, hopened]
    have hstep : other.step (.text content) = .ok other :=
      congrArg Except.ok (ManifestScan.addText_of_outermost houter _)
    rw [ManifestScan.foldlM_cons_of_ok hstep]
    exact ih settled gains hopened
  | @hal opened tag children inner events rest hals isHal tells free sheds ih =>
    obtain ⟨inside, outside, noPolicy⟩ := free
    rw [← hopened, ← gains.opened] at inside outside
    have hstep : other.step (.opening tag) = .ok (other.enterInner "hal") := by
      rw [← isHal]
      exact ManifestScan.enter_of_opened inside tag
    have hwithin : (other.enterInner "hal").opened ≠ [] := List.cons_ne_nil _ _
    -- Only the scan of the whole document goes through the HAL. Behind it, it has gained a name.
    have hinner := ManifestScan.foldlM_tells tells hwithin
    have hclose : ((other.enterInner "hal").after children).step (.closing "hal") =
        .ok ((other.enterInner "hal").after children).leave := rfl
    have settled' := ((settled.enterInner "hal").after children).leave
      ManifestScan.opened_after_enterInner
    have gains' := gains.trans (settled.gains_hal outside noPolicy)
    rw [ManifestScan.foldlM_cons_of_ok hstep, ManifestScan.foldlM_append_of_ok hinner,
      ManifestScan.foldlM_cons_of_ok hclose, ih settled' gains' hopened, NameSet.union_assoc]
    rfl

namespace ManifestFacts

theorem ofReading_eq_map (events : List Event) :
    ofReading ⟨events, none⟩ = (events.foldlM ManifestScan.step {}).map ManifestScan.facts := by
  rw [ofReading]
  cases events.foldlM ManifestScan.step {} <;> rfl

/-- The facts of a document are those of what is left of it and the HALs that are taken out. -/
theorem ofReading_eq_of_sheds {events rest : List Event} {hals : List Content}
    (sheds : Sheds OutsideHals [] (Xml.expand events) rest hals) :
    ofReading ⟨events, none⟩ =
      (ofReading ⟨rest, none⟩).map (·.adding (.ofHals (passthroughsOf hals))) := by
  have gains : ManifestScan.Gains [] ∅ {} {} := ⟨rfl, rfl, rfl, rfl, by simp, by simp⟩
  have settled : ManifestScan.Settled {} := ⟨fun _ => rfl, fun _ => rfl⟩
  have hfacts := @Sheds.foldlM_eq _ _ _ {} {} ∅ sheds settled gains
  rw [ManifestScan.foldlM_expand, NameSet.empty_union] at hfacts
  rw [ofReading_eq_map, ofReading_eq_map, hfacts]
  cases rest.foldlM ManifestScan.step {} <;> rfl

end ManifestFacts

end Vintf

end Treble
