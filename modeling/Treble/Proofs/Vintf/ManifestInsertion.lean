import Treble.Proofs.Version.Best
import Treble.Proofs.Vintf.ManifestRegisters
import Treble.Proofs.Vintf.ManifestVersions
import Treble.Xml.Tree.Place

/-!
# Elements inserted into manifests

A scan does not look for a path from the root: it knows elements by their names and the names of those
that they stand in. So an element of an unknown name is passed over, but what it holds is scanned as
if it stood elsewhere, and adds to the facts what it would be found to say on its own.

## Main definitions

* `Vintf.ManifestScan.knownNames`, `Vintf.ManifestScan.textNames` — the names of the elements that a
  scan looks for, and of those whose texts it may collect
* `Vintf.ManifestFacts.adding` — the facts of a manifest with those of one of its elements
* `Vintf.ManifestScan.Gains` — a scan has collected more than another one

## Main results

* `Vintf.ManifestScan.Gains.after` — what was collected more stays so
* `Vintf.ManifestScan.gains_inserting` — what an element adds to a scan at the place where it stands
* `Vintf.ManifestFacts.parse_result` — the facts of a manifest with an element inserted
-/

namespace Treble.Vintf

open Xml (Content Place Insertion)
open Text (NameSet)

/-- The names of the elements that a scan looks for. -/
def ManifestScan.knownNames : List String :=
  ["manifest", "hal", "name", "transport", "sepolicy", "version"]

/-- The names of the elements whose texts a scan may collect. -/
def ManifestScan.textNames : List String := ["name", "transport", "version"]

/-- The facts of a manifest with those of one of its elements. The level is that of the manifest. -/
def ManifestFacts.adding (facts own : ManifestFacts) : ManifestFacts :=
  { sepolicyVersion := max facts.sepolicyVersion own.sepolicyVersion
    passthroughHals := facts.passthroughHals ∪ own.passthroughHals
    targetLevel := facts.targetLevel }

/-- An element that declares nothing adds nothing. -/
theorem ManifestFacts.adding_of_empty (facts : ManifestFacts) {own : ManifestFacts}
    (noVersion : own.sepolicyVersion = none) (noHals : ∀ hal, ¬ hal ∈ own.passthroughHals) :
    facts.adding own = facts := by
  have hunion : facts.passthroughHals ∪ own.passthroughHals = facts.passthroughHals := by
    apply NameSet.ext
    intro hal
    rw [NameSet.mem_union, or_iff_left (noHals hal)]
  rw [adding, noVersion, hunion, Option.max_none_right]

namespace ManifestScan

variable {scan other : ManifestScan} {content : Content} {name : String}

/-! ### More that is collected -/

/-- The second scan is where the first one is, but has collected some more texts of versions and some
more passthrough HALs. -/
structure Gains (texts : List String) (hals : NameSet) (scan other : ManifestScan) : Prop where
  opened : other.opened = scan.opened
  versionText : other.versionText = scan.versionText
  hal : other.hal = scan.hal
  targetLevel : other.targetLevel = scan.targetLevel
  versions : ∀ text, text ∈ other.versions ↔ text ∈ scan.versions ∨ text ∈ texts
  passthroughHals : ∀ hal, hal ∈ other.passthroughHals ↔ hal ∈ scan.passthroughHals ∨ hal ∈ hals

namespace Gains

variable {texts : List String} {hals : NameSet}

theorem enterInner (gains : Gains texts hals scan other) (name : String) :
    Gains texts hals (scan.enterInner name) (other.enterInner name) where
  opened := congrArg (name :: ·) gains.opened
  versionText := gains.versionText
  hal := by rw [ManifestScan.enterInner, ManifestScan.enterInner, gains.hal]
  targetLevel := gains.targetLevel
  versions := gains.versions
  passthroughHals := gains.passthroughHals

theorem addText (gains : Gains texts hals scan other) (text : String) :
    Gains texts hals (scan.addText text) (other.addText text) where
  opened := by rw [opened_addText, opened_addText, gains.opened]
  versionText := by
    by_cases version : ∃ outer, scan.opened = "version" :: "sepolicy" :: outer
    · obtain ⟨outer, h⟩ := version
      rw [versionText_addText_of_version h, versionText_addText_of_version (gains.opened.trans h),
        gains.versionText]
    · have h := not_exists.mp version
      rw [versionText_addText_of_ne h,
        versionText_addText_of_ne (by rwa [gains.opened]), gains.versionText]
  hal := by
    by_cases field : ∃ name outer, scan.opened = name :: "hal" :: outer
    · obtain ⟨name, outer, h⟩ := field
      rw [hal_addText_of_field h, hal_addText_of_field (gains.opened.trans h), gains.hal]
    · have h : scan.opened.tail.head? ≠ some "hal" := by
        intro hhead
        obtain ⟨outer, houter⟩ := List.head?_eq_some_iff.mp hhead
        cases hopened : scan.opened with
        | nil => simp [hopened] at houter
        | cons name rest =>
          rw [hopened, List.tail_cons] at houter
          exact field ⟨name, outer, by rw [hopened, houter]⟩
      rw [hal_addText_of_ne h, hal_addText_of_ne (by rwa [gains.opened]), gains.hal]
  targetLevel := by rw [targetLevel_addText, targetLevel_addText, gains.targetLevel]
  versions := by simpa only [versions_addText] using gains.versions
  passthroughHals := by simpa only [passthroughHals_addText] using gains.passthroughHals

theorem collect (gains : Gains texts hals scan other) (hal : String) :
    hal ∈ other.collect ↔ hal ∈ scan.collect ∨ hal ∈ hals := by
  rw [mem_collect_iff, mem_collect_iff, gains.hal, gains.passthroughHals, or_right_comm]

theorem leave (gains : Gains texts hals scan other) {outer : List String}
    (h : scan.opened = name :: outer) : Gains texts hals scan.leave other.leave where
  opened := by rw [opened_leave h, opened_leave (gains.opened.trans h)]
  versionText := by
    rw [versionText_leave h, versionText_leave (gains.opened.trans h), gains.versionText]
  hal := by rw [hal_leave h, hal_leave (gains.opened.trans h), gains.hal]
  targetLevel := by
    rw [targetLevel_leave h, targetLevel_leave (gains.opened.trans h), gains.targetLevel]
  versions text := by
    rw [versions_leave h, versions_leave (gains.opened.trans h)]
    split
    · rw [List.mem_cons, List.mem_cons, gains.versionText, gains.versions, or_assoc]
    · exact gains.versions text
  passthroughHals hal := by
    rw [passthroughHals_leave h, passthroughHals_leave (gains.opened.trans h)]
    split
    · exact gains.collect hal
    · exact gains.passthroughHals hal

/-- Behind any content the second scan still has collected the same more. -/
theorem after (gains : Gains texts hals scan other) (content : Content) :
    Gains texts hals (scan.after content) (other.after content) := by
  induction content generalizing scan other with
  | done => exact gains
  | text content following ih => exact ih (gains.addText _)
  | element name attributes children following ihChildren ihFollowing =>
    have hend := ihChildren (gains.enterInner name)
    exact ihFollowing (hend.leave opened_after_enterInner)

/-- The facts of the second scan are those of the first one with what was collected more. -/
theorem facts_eq {own : ManifestScan} (gains : Gains own.versions own.passthroughHals scan other) :
    other.facts = scan.facts.adding own.facts := by
  have hversions : Version.best other.versions = Version.best (scan.versions ++ own.versions) := by
    apply Version.best_congr
    intro text
    rw [gains.versions, List.mem_append]
  have hhals : other.passthroughHals = scan.passthroughHals ∪ own.passthroughHals := by
    apply NameSet.ext
    intro hal
    rw [gains.passthroughHals, NameSet.mem_union]
  rw [facts, facts, facts, ManifestFacts.adding, hversions, Version.best_append, hhals,
    gains.targetLevel]

end Gains

/-! ### What an element adds -/

theorem version_append_iff {top low low' : List String} (noPolicy : name ≠ "sepolicy")
    (noVersion : name ≠ "version") :
    (∃ outer, top ++ name :: low = "version" :: "sepolicy" :: outer) ↔
      ∃ outer, top ++ name :: low' = "version" :: "sepolicy" :: outer := by
  rcases top with _ | ⟨first, _ | ⟨second, top⟩⟩
  · simp [noVersion]
  · simp [noPolicy]
  · simp

theorem head?_append_cons (top low : List String) (name : String) :
    (top ++ name :: low).head? = (top ++ [name]).head? := by
  cases top <;> rfl

/-- The versions that a content adds do not hang on what lies around the element that it is in. -/
theorem exists_versions_after (content : Content) {top low low' : List String} (noPolicy : name ≠ "sepolicy")
    (noVersion : name ≠ "version") (h : scan.opened = top ++ name :: low)
    (hother : other.opened = top ++ name :: low') (same : other.versionText = scan.versionText) :
    (other.after content).versionText = (scan.after content).versionText ∧
      ∃ news, (scan.after content).versions = news ++ scan.versions ∧
        (other.after content).versions = news ++ other.versions := by
  induction content generalizing scan other top with
  | done => exact ⟨same, [], rfl, rfl⟩
  | text content following ih =>
    have htext : (other.addText (Text.trim content)).versionText =
        (scan.addText (Text.trim content)).versionText := by
      by_cases version : ∃ outer, scan.opened = "version" :: "sepolicy" :: outer
      · have hversion := version
        rw [h, version_append_iff noPolicy noVersion, ← hother] at hversion
        obtain ⟨outer, houter⟩ := version
        obtain ⟨outer', houter'⟩ := hversion
        rw [versionText_addText_of_version houter, versionText_addText_of_version houter', same]
      · have hversion := version
        rw [h, version_append_iff noPolicy noVersion, ← hother] at hversion
        rw [versionText_addText_of_ne (not_exists.mp version),
          versionText_addText_of_ne (not_exists.mp hversion), same]
    have hrest := ih (by rwa [opened_addText]) (by rwa [opened_addText]) htext
    rwa [versions_addText, versions_addText] at hrest
  | element inner attributes children following ihChildren ihFollowing =>
    have hhead : other.opened.head? = scan.opened.head? := by
      rw [h, hother, head?_append_cons, ← head?_append_cons top low]
    have hinner : (scan.enterInner inner).opened = (inner :: top) ++ name :: low :=
      congrArg (inner :: ·) h
    have hinner' : (other.enterInner inner).opened = (inner :: top) ++ name :: low' :=
      congrArg (inner :: ·) hother
    obtain ⟨htext, news, hversions, hversions'⟩ := ihChildren hinner hinner' same
    -- Both elements end as versions of the policy, with the same text, or neither does.
    have hleave : ((other.enterInner inner).after children).leave.versionText =
        ((scan.enterInner inner).after children).leave.versionText ∧
        ∃ news, ((scan.enterInner inner).after children).leave.versions = news ++ scan.versions ∧
          ((other.enterInner inner).after children).leave.versions = news ++ other.versions := by
      rw [versionText_leave opened_after_enterInner, versionText_leave opened_after_enterInner,
        versions_leave opened_after_enterInner, versions_leave opened_after_enterInner, hhead,
        htext, hversions, hversions']
      split
      · exact ⟨rfl, _ :: news, rfl, rfl⟩
      · exact ⟨rfl, news, rfl, rfl⟩
    obtain ⟨hbehind, before, hbefore, hbefore'⟩ := hleave
    obtain ⟨hend, behind, hafter, hafter'⟩ := ihFollowing
      (opened_leave_after.trans h) (opened_leave_after.trans hother) hbehind
    refine ⟨hend, behind ++ before, ?_, ?_⟩
    · rw [after, hafter, hbefore, List.append_assoc]
    · rw [after, hafter', hbefore', List.append_assoc]

/-- The scan behind an element that is a document of its own. -/
def ofElement (name : String) (children : Content) : ManifestScan :=
  ((enterInner {} name).after children).leave

/-- What an element holds of a HAL comes to nothing in the elements around it, if these are no HAL or
there is no HAL in it. -/
theorem hal_leave_after (unknown : name ∉ knownNames)
    (h : scan.hal = none ∨ content.Lacks "hal") :
    ((scan.enterInner name).after content).leave.hal = scan.hal := by
  have noHal : name ≠ "hal" := (ne_of_mem_of_not_mem (by decide) unknown).symm
  have noName : name ≠ "name" := (ne_of_mem_of_not_mem (by decide) unknown).symm
  have noTransport : name ≠ "transport" := (ne_of_mem_of_not_mem (by decide) unknown).symm
  have hsame : (scan.enterInner name).hal = scan.hal := hal_enterInner_of_ne noHal
  rw [hal_leave opened_after_enterInner, if_neg noHal]
  rcases h with none | lacks
  · rw [none]
    exact hal_after_of_none (hsame.trans none)
  · by_cases field : scan.opened.head? = some "hal"
    · obtain ⟨outer, houter⟩ := List.head?_eq_some_iff.mp field
      have hopened : (scan.enterInner name).opened = name :: "hal" :: outer := by
        rw [opened_enterInner, houter]
      rw [hal_after_of_field hopened noHal lacks, HalEntry.append_of_ne noName noTransport,
        Option.map_id, hsame]
      rfl
    · exact (hal_after_of_ne opened_enterInner noHal field lacks).trans hsame

/-- The passthrough HALs in an element are added to those in front of it. -/
theorem mem_passthroughHals_leave_after (unknown : name ∉ knownNames) {hal : String} :
    hal ∈ ((scan.enterInner name).after content).leave.passthroughHals ↔
      hal ∈ scan.passthroughHals ∨ hal ∈ (ofElement name content).passthroughHals := by
  have noHal : name ≠ "hal" := (ne_of_mem_of_not_mem (by decide) unknown).symm
  rw [ofElement, passthroughHals_leave opened_after_enterInner,
    passthroughHals_leave opened_after_enterInner, if_neg noHal, if_neg noHal,
    mem_passthroughHals_after (scan.enterInner name) content none,
    mem_passthroughHals_after (enterInner {} name) content none]
  apply or_congr_right
  rw [or_iff_right]
  exact NameSet.not_mem_empty hal

/-- An element without versions of the policy leaves the versions as they are. -/
theorem versions_leave_after_of_ne (scan : ManifestScan) (noVersion : name ≠ "version")
    (without : ∀ e ∈ content.elements (some name), ¬ e.IsPolicyVersion) :
    ((scan.enterInner name).after content).leave.versionText = scan.versionText ∧
      ((scan.enterInner name).after content).leave.versions = scan.versions := by
  have hleave := versions_leave_of_ne scan content fun h => noVersion h.1
  have hopened : (scan.enterInner name).opened = name :: scan.opened := opened_enterInner
  have hafter := versions_after_of_ne hopened (fun h => noVersion h.1) without
  rw [hleave.1, hleave.2, hafter.1, hafter.2]
  exact ⟨rfl, rfl⟩

/-- The versions in an element are added to those in front of it, if no version of the policy is being
collected or there is none in it. -/
theorem versions_leave_after (unknown : name ∉ knownNames)
    (h : scan.versionText = "" ∨ ∀ e ∈ content.elements (some name), ¬ e.IsPolicyVersion) :
    ((scan.enterInner name).after content).leave.versionText = scan.versionText ∧
      ((scan.enterInner name).after content).leave.versions =
        (ofElement name content).versions ++ scan.versions := by
  have noPolicy : name ≠ "sepolicy" := (ne_of_mem_of_not_mem (by decide) unknown).symm
  have noVersion : name ≠ "version" := (ne_of_mem_of_not_mem (by decide) unknown).symm
  rcases h with fresh | without
  · have hleave := versions_leave_of_ne scan content fun h => noVersion h.1
    have hown := versions_leave_of_ne {} content fun h => noVersion h.1
    have settled : (enterInner {} name).Settled :=
      Settled.enterInner ⟨fun _ => rfl, fun _ => rfl⟩ name
    have hend := (settled.after content).leave opened_after_enterInner
    have hempty := hend.versionText (by rw [opened_leave_after]; decide)
    rw [hown.1] at hempty
    have hopened : (enterInner {} name).opened = [] ++ name :: [] := rfl
    have hopened' : (scan.enterInner name).opened = [] ++ name :: scan.opened := rfl
    obtain ⟨htext, news, hversions, hversions'⟩ :=
      exists_versions_after content noPolicy noVersion hopened hopened' fresh
    refine ⟨?_, ?_⟩
    · rw [hleave.1, htext, hempty, fresh]
    · rw [hleave.2, ofElement, hown.2, hversions', hversions, versions_enterInner,
        versions_enterInner, List.append_nil]
  · have hafter := versions_leave_after_of_ne scan noVersion without
    have hnone := versions_leave_after_of_ne {} noVersion without
    rw [hafter.1, hafter.2, ofElement, hnone.2]
    exact ⟨rfl, rfl⟩

/-- An element of an unknown name adds to a scan what it says on its own, unless a HAL comes to stand
in another one, or a version of the policy in another one. -/
theorem Settled.gains_element (settled : scan.Settled) (unknown : name ∉ knownNames)
    (hals : "hal" ∈ scan.opened → content.Lacks "hal")
    (versions : InPolicyVersion scan.opened →
      ∀ e ∈ content.elements (some name), ¬ e.IsPolicyVersion) :
    Gains (ofElement name content).versions (ofElement name content).passthroughHals scan
      ((scan.enterInner name).after content).leave where
  opened := opened_leave_after
  versionText :=
    (versions_leave_after unknown ((Classical.em _).symm.imp settled.versionText versions)).1
  hal := hal_leave_after unknown ((Classical.em _).symm.imp settled.hal hals)
  targetLevel := by
    rw [targetLevel_leave opened_after_enterInner, targetLevel_after]
    rfl
  versions text := by
    have hversions := versions_leave_after unknown
      ((Classical.em _).symm.imp settled.versionText versions)
    rw [hversions.2, List.mem_append, or_comm]
  passthroughHals _ := mem_passthroughHals_leave_after unknown

/-- A text in an element of no such name that texts are collected of is passed over. -/
theorem addText_of_plain (plain : ∀ parent ∈ scan.opened.head?, parent ∉ textNames) (text : String) :
    scan.addText text = scan := by
  unfold addText
  split
  · next h => exact absurd (by decide) (plain "version" (by rw [h]; rfl))
  · next h => exact absurd (by decide) (plain "name" (by rw [h]; rfl))
  · next h => exact absurd (by decide) (plain "transport" (by rw [h]; rfl))
  · rfl

/-- At whatever place an element of an unknown name is inserted, it adds to the scan what it says on
its own, unless a HAL comes to stand in another one, or a version of the policy in another one. -/
theorem gains_inserting (attributes : List (String × String)) {place : Place}
    (unknown : name ∉ knownNames) (settled : scan.Settled)
    (plain : ∀ parent ∈ (place.path scan.opened).head?, parent ∉ textNames)
    (hals : "hal" ∈ place.path scan.opened → content.Lacks "hal")
    (versions : InPolicyVersion (place.path scan.opened) →
      ∀ e ∈ content.elements (some name), ¬ e.IsPolicyVersion) :
    Gains (ofElement name content).versions (ofElement name content).passthroughHals
      (scan.after place.content) (scan.after (place.inserting name attributes content)) := by
  -- The induction is on the place. The scan in front of it is settled wherever it has come to.
  induction place generalizing scan with
  | front following => exact (settled.gains_element unknown hals versions).after following
  | amid left right following =>
    have hgains := settled.gains_element unknown hals versions
    have hbehind : ((scan.enterInner name).after content).leave.opened = scan.opened :=
      opened_leave_after
    simp only [Place.content, Place.inserting, ManifestScan.after]
    rw [addText_of_plain plain, addText_of_plain plain, addText_of_plain (by rwa [hbehind])]
    exact hgains.after following
  | behindText text place ih =>
    have hopened : (scan.addText (Text.trim text)).opened = scan.opened := opened_addText _
    rw [Place.path, ← hopened] at plain hals versions
    exact ih (settled.addText _) plain hals versions
  | behindElement other others children place ih =>
    have hopened : ((scan.enterInner other).after children).leave.opened = scan.opened :=
      opened_leave_after
    rw [Place.path, ← hopened] at plain hals versions
    have hend := (settled.enterInner other).after children
    exact ih (hend.leave opened_after_enterInner) plain hals versions
  | within other others place following ih =>
    have hinner := ih (settled.enterInner other) plain hals versions
    exact (hinner.leave opened_after_enterInner).after following

/-- An element without HALs and versions of the policy says nothing on its own. -/
theorem facts_ofElement (unknown : name ∉ knownNames) (noHals : content.Lacks "hal")
    (noVersions : ∀ e ∈ content.elements (some name), ¬ e.IsPolicyVersion) :
    (ofElement name content).facts.sepolicyVersion = none ∧
      ∀ hal, ¬ hal ∈ (ofElement name content).facts.passthroughHals := by
  have noHal : name ≠ "hal" := (ne_of_mem_of_not_mem (by decide) unknown).symm
  have noVersion : name ≠ "version" := (ne_of_mem_of_not_mem (by decide) unknown).symm
  constructor
  · rw [facts, ofElement, (versions_leave_after_of_ne {} noVersion noVersions).2]
    rfl
  · intro hal hmem
    rw [facts, ofElement, passthroughHals_leave opened_after_enterInner, if_neg noHal,
      mem_passthroughHals_after _ content (some name)] at hmem
    rcases hmem with hmem | ⟨e, he, declares, _⟩
    · exact NameSet.not_mem_empty hal hmem
    · exact (Content.lacks_iff (some name)).mp noHals e he declares.isHal

end ManifestScan

namespace ManifestFacts

open ManifestScan (knownNames textNames InPolicyVersion)

variable (insertion : Insertion)

/-- A manifest with an element of an unknown name inserted has its facts and those that the element
has on its own. -/
theorem parse_result (unknown : insertion.name ∉ knownNames)
    (plain : ∀ parent ∈ insertion.parent, parent ∉ textNames)
    (hals : "hal" ∈ insertion.path → insertion.children.Lacks "hal")
    (versions : InPolicyVersion insertion.path →
      ∀ e ∈ insertion.children.elements (some insertion.name), ¬ e.IsPolicyVersion) :
    ∃ facts, parse (String.ofList insertion.original.spelling) = .ok facts ∧
      parse (String.ofList insertion.inserted.spelling) =
        .ok (ManifestScan.ofElement insertion.name insertion.children).facts ∧
      parse (String.ofList insertion.result.spelling) =
        .ok (facts.adding (ManifestScan.ofElement insertion.name insertion.children).facts) := by
  have hown : parse (String.ofList insertion.inserted.spelling) =
      .ok (ManifestScan.ofElement insertion.name insertion.children).facts := by
    have noManifest : insertion.name ≠ "manifest" :=
      (ne_of_mem_of_not_mem (by decide) unknown).symm
    rw [Insertion.inserted, parse_spelling insertion.wellInserted, ManifestScan.start,
      if_neg noManifest]
    rfl
  refine ⟨_, parse_spelling insertion.wellRoot, hown, ?_⟩
  have settled := (ManifestScan.Settled.start insertion.root insertion.rootAttributes).enterInner
    insertion.root
  have hgains := ManifestScan.gains_inserting insertion.attributes unknown settled plain hals versions
  have hfacts := (hgains.leave ManifestScan.opened_after_enterInner).facts_eq
  rw [Insertion.result, parse_spelling insertion.wellFormed_result]
  exact congrArg Except.ok hfacts

end ManifestFacts

end Treble.Vintf
