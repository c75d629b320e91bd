import Treble.Proofs.Vintf.ManifestScan
import Treble.Xml.Tree.Element

/-!
# Passthrough HALs of canonical manifests

A scan keeps what it collects of one HAL at a time. A `hal` element begins a new collection, and its
end takes away whatever there is. So a HAL is collected as it stands in the tree unless there is
another one in it, in which case nothing of it is left at its end.

## Main definitions

* `Xml.Element.IsPassthroughHal` — the elements that declare a passthrough HAL

## Main results

* `Vintf.ManifestScan.hal_after_of_hal`, `Vintf.ManifestScan.hal_after_eq_none` — what is collected
  behind the content of a HAL
* `Vintf.ManifestScan.mem_passthroughHals_after` — the passthrough HALs behind a content
* `Vintf.ManifestFacts.mem_passthroughHals_parse` — the passthrough HALs of a tree
* `Vintf.ManifestFacts.parse_nestedHals` — a HAL that is lost
-/

namespace Treble

namespace Xml

/-- An element declares a passthrough HAL of a name: so say the texts of its own fields. -/
structure Element.IsPassthroughHal (e : Element) (hal : String) : Prop where
  isHal : e.name = "hal"
  transport : e.children.textOf "transport" = "passthrough"
  name : e.children.textOf "name" = hal
  named : hal ≠ ""

theorem Element.isPassthroughHal_iff {e : Element} {hal : String} :
    e.IsPassthroughHal hal ↔ e.name = "hal" ∧ e.children.textOf "transport" = "passthrough" ∧
      e.children.textOf "name" = hal ∧ hal ≠ "" :=
  ⟨fun ⟨isHal, transport, name, named⟩ => ⟨isHal, transport, name, named⟩,
    fun ⟨isHal, transport, name, named⟩ => ⟨isHal, transport, name, named⟩⟩

instance (e : Element) (hal : String) : Decidable (e.IsPassthroughHal hal) :=
  decidable_of_iff' _ Element.isPassthroughHal_iff

end Xml

namespace Vintf

open Xml (Content)

@[simp] theorem HalEntry.append_append (hal : HalEntry) (key text other : String) :
    (hal.append key text).append key other = hal.append key (text ++ other) := by
  simp only [append]
  split_ifs <;> simp [String.append_assoc]

/-- A HAL with the fields in a content at the end of what has been collected. -/
def HalEntry.extend (hal : HalEntry) (content : Content) : HalEntry :=
  { name := hal.name ++ content.textOf "name"
    transport := hal.transport ++ content.textOf "transport" }

theorem HalEntry.extend_append (hal : HalEntry) (name : String)
    (attributes : List (String × String)) (children following : Content) :
    (hal.append name children.ownText).extend following =
      hal.extend (.element name attributes children following) := by
  simp only [extend, append, Content.textOf]
  split_ifs <;> simp_all [String.append_assoc]

namespace ManifestScan

variable {scan : ManifestScan} {content : Content} {name innermost : String}
  {outer : List String}

@[simp] theorem passthroughHals_enterInner :
    (scan.enterInner name).passthroughHals = scan.passthroughHals := rfl

theorem hal_enterInner_of_ne (h : name ≠ "hal") : (scan.enterInner name).hal = scan.hal :=
  if_neg h

theorem hal_addText_of_hal (h : scan.opened = "hal" :: outer) (text : String) :
    (scan.addText text).hal = scan.hal := by
  by_cases noField : outer.head? = some "hal"
  -- Directly in another HAL, it is an element of a name that no field has.
  · obtain ⟨rest, rfl⟩ := List.head?_eq_some_iff.mp noField
    rw [hal_addText_of_field h, HalEntry.append_of_ne (by decide) (by decide), Option.map_id]
    rfl
  · exact hal_addText_of_ne (by rwa [h]) text

theorem hal_addText_of_none (h : scan.hal = none) (text : String) :
    (scan.addText text).hal = none := by
  obtain ⟨_, _, heq⟩ | ⟨_, _, _, heq⟩ | heq := scan.addText_cases text
  · rw [heq, h]
  · rw [heq, h, Option.map_none]
  · rw [heq, h]

/-! ### What is collected behind a content without HALs -/

/-- Outside HALs and their fields nothing is collected. -/
theorem hal_after_of_ne (h : scan.opened = innermost :: outer) (noHal : innermost ≠ "hal")
    (noField : outer.head? ≠ some "hal") (lacks : content.Lacks "hal") :
    (scan.after content).hal = scan.hal := by
  induction content generalizing scan innermost outer with
  | done => rfl
  | text content following ih =>
    rw [after, ih (by rwa [opened_addText]) noHal noField lacks]
    exact hal_addText_of_ne (by rwa [h]) _
  | element name attributes children following ihChildren ihFollowing =>
    obtain ⟨hname, hchildren, hfollowing⟩ := lacks
    have hinner : ((scan.enterInner name).after children).hal = scan.hal := by
      rw [ihChildren rfl hname (by simpa [h] using noHal) hchildren, hal_enterInner_of_ne hname]
    rw [after, ihFollowing (opened_leave_after.trans h) noHal noField hfollowing,
      hal_leave opened_after_enterInner, if_neg hname, hinner]

/-- In a field of a HAL its own text is collected. -/
theorem hal_after_of_field (h : scan.opened = innermost :: "hal" :: outer)
    (noHal : innermost ≠ "hal") (lacks : content.Lacks "hal") :
    (scan.after content).hal = scan.hal.map (·.append innermost content.ownText) := by
  induction content generalizing scan with
  | done => simp [after, Content.ownText, HalEntry.append_empty]
  | text content following ih =>
    rw [after, ih (by rwa [opened_addText]) lacks, hal_addText_of_field h, Option.map_map,
      Content.ownText]
    congr 1
    funext hal
    exact hal.append_append _ _ _
  | element name attributes children following ihChildren ihFollowing =>
    obtain ⟨hname, hchildren, hfollowing⟩ := lacks
    -- What stands in an element in the field is deeper than the field itself.
    have hinner : ((scan.enterInner name).after children).hal = scan.hal := by
      rw [hal_after_of_ne rfl hname (by simpa [h] using noHal) hchildren,
        hal_enterInner_of_ne hname]
    rw [after, ihFollowing (opened_leave_after.trans h) hfollowing,
      hal_leave opened_after_enterInner, if_neg hname, hinner]
    rfl

/-- In a HAL its own fields are collected. -/
theorem hal_after_of_hal (h : scan.opened = "hal" :: outer) (lacks : content.Lacks "hal") :
    (scan.after content).hal = scan.hal.map (·.extend content) := by
  induction content generalizing scan with
  | done => simp [after, HalEntry.extend, Content.textOf]
  | text content following ih =>
    rw [after, ih (by rwa [opened_addText]) lacks, hal_addText_of_hal h]
    rfl
  | element name attributes children following ihChildren ihFollowing =>
    obtain ⟨hname, hchildren, hfollowing⟩ := lacks
    have hopened : (scan.enterInner name).opened = name :: "hal" :: outer := by
      rw [opened_enterInner, h]
    rw [after, ihFollowing (opened_leave_after.trans h) hfollowing,
      hal_leave opened_after_enterInner, if_neg hname, hal_after_of_field hopened hname hchildren,
      hal_enterInner_of_ne hname, Option.map_map]
    congr 1
    funext hal
    exact hal.extend_append name attributes children following

/-! ### What is collected behind a content with HALs -/

/-- Where no HAL is being collected, none is behind a content. -/
theorem hal_after_of_none (none : scan.hal = none) : (scan.after content).hal = .none := by
  induction content generalizing scan with
  | done => exact none
  | text content following ih => exact ih (hal_addText_of_none none _)
  | element name attributes children following ihChildren ihFollowing =>
    refine ihFollowing ?_
    rw [hal_leave opened_after_enterInner]
    split
    · rfl
    · next hname => exact ihChildren ((hal_enterInner_of_ne hname).trans none)

/-- Behind a content with a HAL in it none is being collected, whatever was in front of it. -/
theorem hal_after_eq_none (holds : ¬ content.Lacks "hal") : (scan.after content).hal = none := by
  induction content generalizing scan with
  | done => exact absurd trivial holds
  | text content following ih => exact ih holds
  | element name attributes children following ihChildren ihFollowing =>
    rw [after]
    by_cases hfollowing : following.Lacks "hal"
    · refine hal_after_of_none ?_
      rw [hal_leave opened_after_enterInner]
      split
      · rfl
      · next hname => exact ihChildren fun hchildren => holds ⟨hname, hchildren, hfollowing⟩
    · exact ihFollowing hfollowing

/-! ### The passthrough HALs -/

theorem mem_collect_iff {hal : String} :
    hal ∈ scan.collect ↔ hal ∈ scan.passthroughHals ∨
      ∃ entry, scan.hal = some entry ∧ entry.transport = "passthrough" ∧ entry.name = hal ∧
        hal ≠ "" := by
  cases hentry : scan.hal with
  | none => simp [collect, hentry]
  | some entry =>
    have hpassthrough : entry.isPassthrough = true ↔
        entry.transport = "passthrough" ∧ entry.name ≠ "" := by
      simp [HalEntry.isPassthrough]
    have hcollect : scan.collect =
        if entry.isPassthrough then scan.passthroughHals.insert entry.name
        else scan.passthroughHals := by
      simp only [collect, hentry]
    rw [hcollect]
    by_cases passthrough : entry.isPassthrough = true
    · rw [if_pos passthrough, Text.NameSet.mem_insert, or_comm]
      apply or_congr_right
      obtain ⟨htransport, named⟩ := hpassthrough.mp passthrough
      constructor
      · rintro rfl
        exact ⟨entry, rfl, htransport, rfl, named⟩
      · rintro ⟨_, hsome, _, rfl, _⟩
        rw [Option.some.inj hsome]
    · rw [if_neg passthrough, or_iff_left]
      rintro ⟨_, hsome, htransport, rfl, named⟩
      obtain rfl := Option.some.inj hsome
      exact passthrough (hpassthrough.mpr ⟨htransport, named⟩)

/-- What the end of a HAL adds to the passthrough HALs, where it was begun with nothing collected. -/
theorem mem_passthroughHals_leave_hal {hal : String} (parent : Option String) :
    hal ∈ ((scan.enterInner "hal").after content).leave.passthroughHals ↔
      hal ∈ ((scan.enterInner "hal").after content).passthroughHals ∨
        (Xml.Element.mk parent "hal" content).IsPassthroughHal hal ∧ content.Lacks "hal" := by
  rw [passthroughHals_leave opened_after_enterInner, if_pos rfl, mem_collect_iff]
  apply or_congr_right
  by_cases lacks : content.Lacks "hal"
  · have hentry : ((scan.enterInner "hal").after content).hal = some (HalEntry.extend {} content) :=
      hal_after_of_hal opened_enterInner lacks
    rw [hentry]
    constructor
    · rintro ⟨entry, hsome, htransport, hname, named⟩
      obtain rfl := Option.some.inj hsome
      rw [HalEntry.extend, String.empty_append] at htransport hname
      exact ⟨⟨rfl, htransport, hname, named⟩, lacks⟩
    · rintro ⟨⟨_, htransport, hname, named⟩, _⟩
      refine ⟨_, rfl, ?_, ?_, named⟩
      · rwa [HalEntry.extend, String.empty_append]
      · rwa [HalEntry.extend, String.empty_append]
  · simp [hal_after_eq_none lacks, lacks]

/-- Behind a content, its passthrough HALs without another HAL in them have been added. -/
theorem mem_passthroughHals_after (scan : ManifestScan) (content : Content)
    (parent : Option String) {hal : String} :
    hal ∈ (scan.after content).passthroughHals ↔ hal ∈ scan.passthroughHals ∨
      ∃ e ∈ content.elements parent, e.IsPassthroughHal hal ∧ e.children.Lacks "hal" := by
  induction content generalizing scan parent with
  | done => simp [after, Content.elements]
  | text content following ih =>
    rw [after, ih, passthroughHals_addText]
    rfl
  | element name attributes children following ihChildren ihFollowing =>
    -- The element itself comes last: it is complete only behind its children.
    have hleave : hal ∈ ((scan.enterInner name).after children).leave.passthroughHals ↔
        (hal ∈ scan.passthroughHals ∨
          ∃ e ∈ children.elements (some name), e.IsPassthroughHal hal ∧ e.children.Lacks "hal") ∨
        (Xml.Element.mk parent name children).IsPassthroughHal hal ∧ children.Lacks "hal" := by
      by_cases hname : name = "hal"
      · subst hname
        rw [mem_passthroughHals_leave_hal parent, ihChildren _ (some "hal"),
          passthroughHals_enterInner]
      · have hnot : ¬ (Xml.Element.mk parent name children).IsPassthroughHal hal :=
          fun h => hname h.isHal
        rw [passthroughHals_leave opened_after_enterInner, if_neg hname, ihChildren _ (some name),
          passthroughHals_enterInner]
        simp [hnot]
    rw [after, ihFollowing _ parent, hleave, Content.elements]
    simp only [List.mem_cons, List.mem_append, or_and_right, exists_or, exists_eq_left]
    rw [or_assoc, or_assoc]
    apply or_congr_right
    rw [or_left_comm]

/-- The passthrough HALs behind a tree are those of its elements. -/
theorem mem_passthroughHals_start {attributes : List (String × String)} {hal : String} :
    hal ∈ ((start name attributes).after content).passthroughHals ↔
      ∃ e ∈ content.elements none, e.IsPassthroughHal hal ∧ e.children.Lacks "hal" := by
  rw [mem_passthroughHals_after _ _ none, or_iff_right]
  exact Text.NameSet.not_mem_empty hal

end ManifestScan

namespace ManifestFacts

/-- The passthrough HALs of a canonical manifest are those that it declares in HALs that have no
other HAL in them, at any depth. -/
theorem mem_passthroughHals_parse {name : String} {attributes : List (String × String)}
    {children : Content} (well : (Content.element name attributes children .done).WellFormed) :
    ∃ facts,
      parse (String.ofList (Content.element name attributes children .done).spelling) = .ok facts ∧
      ∀ hal, hal ∈ facts.passthroughHals ↔
        ∃ e ∈ (Content.element name attributes children .done).elements none,
          e.IsPassthroughHal hal ∧ ∀ inner ∈ e.descendants, inner.name ≠ "hal" := by
  refine ⟨_, parse_spelling well, fun hal => ?_⟩
  simp only [ManifestScan.facts, ManifestScan.mem_passthroughHals_start,
    Xml.Element.lacks_children_iff]

/-- A passthrough HAL of a name, with other elements behind its fields. -/
def halNamed (name : String) (rest : Content) : Content :=
  .element "hal" []
    (.element "name" [] (.text name .done)
      (.element "transport" [] (.text "passthrough" .done) rest)) .done

/-- A HAL in an element of another name in a HAL. -/
def deepHal : Content := .element "manifest" [] (.element "x" [] (halNamed "a" .done) .done) .done

/-- A HAL is found in an element of another name. -/
theorem mem_passthroughHals_parse_deepHal : deepHal.WellFormed ∧
    ∃ facts, parse (String.ofList deepHal.spelling) = .ok facts ∧
      "a" ∈ facts.passthroughHals := by
  have well : deepHal.WellFormed := by decide
  obtain ⟨facts, hfacts, hmem⟩ := mem_passthroughHals_parse well
  exact ⟨well, facts, hfacts, (hmem "a").mpr (by decide)⟩

/-- A HAL with an empty one in it. -/
def nestedHals : Content :=
  .element "manifest" [] (halNamed "a" (.element "hal" [] .done .done)) .done

/-- A HAL that has another one in it is lost, though its own fields declare a passthrough HAL. -/
theorem parse_nestedHals : nestedHals.WellFormed ∧
    String.ofList nestedHals.spelling =
      "<manifest><hal><name>a</name><transport>passthrough</transport><hal></hal></hal></manifest>" ∧
    (∃ e ∈ nestedHals.elements none, e.IsPassthroughHal "a") ∧
    ∃ facts, parse (String.ofList nestedHals.spelling) = .ok facts ∧
      ¬ "a" ∈ facts.passthroughHals := by
  have well : nestedHals.WellFormed := by decide
  exact ⟨well, by decide, by decide, _, parse_spelling well, by decide⟩

end ManifestFacts

end Vintf

end Treble
