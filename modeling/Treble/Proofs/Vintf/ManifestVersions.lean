import Treble.Proofs.Vintf.ManifestHals

/-!
# Policy versions of canonical manifests

A scan collects the text of one version of the policy at a time, and its end empties the collection.
So a version is collected as it stands in the tree if there is no room for another one in it, which
would have to stand in a `sepolicy` element of its own.

## Main definitions

* `Xml.Element.IsPolicyVersion` — the versions of the policy
* `Xml.Content.VersionsApart` — no version of the policy has a `sepolicy` element in it

## Main results

* `Vintf.ManifestScan.mem_versions_after` — the texts of versions behind a content
-/

namespace Treble

namespace Xml

/-- A version of the policy: it stands directly in a `sepolicy` element. -/
def Element.IsPolicyVersion (e : Element) : Prop :=
  e.parent = some "sepolicy" ∧ e.name = "version"

instance (e : Element) : Decidable e.IsPolicyVersion :=
  inferInstanceAs (Decidable (_ = _ ∧ _ = _))

namespace Content

/-- No version of the policy has a `sepolicy` element in it, given what the content belongs to. -/
def VersionsApart (parent : Option String) (content : Content) : Prop :=
  ∀ e ∈ content.elements parent, e.IsPolicyVersion → ∀ inner ∈ e.descendants, inner.name ≠ "sepolicy"

instance (parent : Option String) (content : Content) : Decidable (content.VersionsApart parent) :=
  inferInstanceAs (Decidable (∀ _ ∈ _, _ → ∀ _ ∈ _, _ ≠ _))

theorem versionsApart_element_iff {parent : Option String} {name : String}
    {attributes : List (String × String)} {children following : Content} :
    (Content.element name attributes children following).VersionsApart parent ↔
      ((Element.mk parent name children).IsPolicyVersion → children.Lacks "sepolicy") ∧
        children.VersionsApart (some name) ∧ following.VersionsApart parent := by
  simp only [VersionsApart, ← Element.lacks_children_iff, elements, List.forall_mem_cons,
    List.forall_mem_append]

/-- Where there is no `sepolicy` element, nothing stands in one. -/
theorem not_isPolicyVersion_of_lacks {content : Content} {parent : Option String}
    (lacks : content.Lacks "sepolicy") (outside : parent ≠ some "sepolicy") :
    ∀ e ∈ content.elements parent, ¬ e.IsPolicyVersion := by
  induction content generalizing parent with
  | done => simp [elements]
  | text content following ih => exact ih lacks outside
  | element name attributes children following ihChildren ihFollowing =>
    obtain ⟨hname, hchildren, hfollowing⟩ := lacks
    intro e he
    rw [elements, List.mem_cons, List.mem_append] at he
    rcases he with rfl | he | he
    · exact fun h => outside h.1
    · exact ihChildren hchildren (by simpa using hname) e he
    · exact ihFollowing hfollowing outside e he

end Content

end Xml

namespace Vintf.ManifestScan

open Xml (Content)

variable {scan : ManifestScan} {content : Content} {innermost : String} {outer : List String}

@[simp] theorem versions_enterInner (name : String) :
    (scan.enterInner name).versions = scan.versions := rfl

@[simp] theorem versionText_enterInner (name : String) :
    (scan.enterInner name).versionText = scan.versionText := rfl

/-- The end of an element that is no version of the policy finishes none. -/
theorem versions_leave_of_ne (scan : ManifestScan) (content : Content) {name : String}
    (h : ¬ (name = "version" ∧ scan.opened.head? = some "sepolicy")) :
    ((scan.enterInner name).after content).leave.versionText =
        ((scan.enterInner name).after content).versionText ∧
      ((scan.enterInner name).after content).leave.versions =
        ((scan.enterInner name).after content).versions := by
  rw [versionText_leave opened_after_enterInner, versions_leave opened_after_enterInner,
    if_neg h, if_neg h]
  exact ⟨rfl, rfl⟩

/-! ### Contents without versions -/

/-- Where there is no version of the policy nothing is collected. -/
theorem versions_after_of_ne (h : scan.opened = innermost :: outer)
    (noVersion : ¬ (innermost = "version" ∧ outer.head? = some "sepolicy"))
    (without : ∀ e ∈ content.elements (some innermost), ¬ e.IsPolicyVersion) :
    (scan.after content).versionText = scan.versionText ∧
      (scan.after content).versions = scan.versions := by
  induction content generalizing scan innermost outer with
  | done => exact ⟨rfl, rfl⟩
  | text content following ih =>
    have hne : ∀ rest, scan.opened ≠ "version" :: "sepolicy" :: rest := by
      intro rest hrest
      rw [hrest] at h
      cases h
      exact noVersion ⟨rfl, rfl⟩
    have hrest := ih ((opened_addText (Text.trim content)).trans h) noVersion without
    rwa [versionText_addText_of_ne hne, versions_addText] at hrest
  | element name attributes children following ihChildren ihFollowing =>
    rw [Content.elements, List.forall_mem_cons, List.forall_mem_append] at without
    obtain ⟨hself, hchildren, hfollowing⟩ := without
    have hnot : ¬ (name = "version" ∧ scan.opened.head? = some "sepolicy") := by
      rw [h]
      exact fun hversion => hself hversion.symm
    have hopened : (scan.enterInner name).opened = name :: innermost :: outer := by
      rw [opened_enterInner, h]
    have hinner := ihChildren hopened (by rwa [h] at hnot) hchildren
    obtain ⟨htext, hversions⟩ := versions_leave_of_ne scan children hnot
    have hbehind : ((scan.enterInner name).after children).leave.opened = innermost :: outer :=
      opened_leave_after.trans h
    have hrest := ihFollowing hbehind noVersion hfollowing
    rwa [htext, hversions, hinner.1, hinner.2] at hrest

/-- In a version of the policy its own text is collected. -/
theorem versions_after_of_version (h : scan.opened = "version" :: "sepolicy" :: outer)
    (lacks : content.Lacks "sepolicy") :
    (scan.after content).versionText = scan.versionText ++ content.ownText ∧
      (scan.after content).versions = scan.versions := by
  induction content generalizing scan with
  | done => exact ⟨String.append_empty.symm, rfl⟩
  | text content following ih =>
    have hrest := ih ((opened_addText (Text.trim content)).trans h) lacks
    rwa [versionText_addText_of_version h, versions_addText, String.append_assoc] at hrest
  | element name attributes children following ihChildren ihFollowing =>
    obtain ⟨hname, hchildren, hfollowing⟩ := lacks
    have hnot : ¬ (name = "version" ∧ scan.opened.head? = some "sepolicy") := by
      simp [h]
    have hopened : (scan.enterInner name).opened = name :: "version" :: "sepolicy" :: outer := by
      rw [opened_enterInner, h]
    have outside : some name ≠ some "sepolicy" := by simpa
    have without := Content.not_isPolicyVersion_of_lacks hchildren outside
    have hinner := versions_after_of_ne hopened (by rwa [h] at hnot) without
    obtain ⟨htext, hversions⟩ := versions_leave_of_ne scan children hnot
    have hbehind : ((scan.enterInner name).after children).leave.opened =
        "version" :: "sepolicy" :: outer := opened_leave_after.trans h
    have hrest := ihFollowing hbehind hfollowing
    rwa [htext, hversions, hinner.1, hinner.2] at hrest

/-! ### The versions -/

/-- At the end of a version of the policy its text is one of the finished ones. -/
theorem versions_leave_of_version (h : scan.opened = "sepolicy" :: outer)
    (fresh : scan.versionText = "") (lacks : content.Lacks "sepolicy") :
    ((scan.enterInner "version").after content).leave.versionText = "" ∧
      ((scan.enterInner "version").after content).leave.versions =
        content.ownText :: scan.versions := by
  have hopened : (scan.enterInner "version").opened = "version" :: "sepolicy" :: outer := by
    rw [opened_enterInner, h]
  have hend := (opened_after (scan.enterInner "version") content).trans hopened
  obtain ⟨htext, hversions⟩ := versions_after_of_version hopened lacks
  rw [versionText_leave hend, versions_leave hend, if_pos ⟨rfl, rfl⟩, if_pos ⟨rfl, rfl⟩, htext,
    hversions, versionText_enterInner, fresh, String.empty_append]
  exact ⟨rfl, rfl⟩

/-- Behind a content that begins outside versions, nothing is left in the collection, and the texts
of its versions have been added to those of the finished ones. -/
theorem mem_versions_after (scan : ManifestScan) (content : Content) {parent : Option String}
    (hparent : scan.opened.head? = parent)
    (outside : ∀ rest, scan.opened ≠ "version" :: "sepolicy" :: rest)
    (fresh : scan.versionText = "") (apart : content.VersionsApart parent) :
    (scan.after content).versionText = "" ∧
      ∀ text, text ∈ (scan.after content).versions ↔ text ∈ scan.versions ∨
        ∃ e ∈ content.elements parent, e.IsPolicyVersion ∧ e.children.ownText = text := by
  induction content generalizing scan parent with
  | done => exact ⟨fresh, by simp [after, Content.elements]⟩
  | text content following ih =>
    have hrest := ih (scan.addText (Text.trim content)) (by rwa [opened_addText])
      (by rwa [opened_addText]) (by rwa [versionText_addText_of_ne outside]) apart
    rwa [versions_addText] at hrest
  | element name attributes children following ihChildren ihFollowing =>
    obtain ⟨apartSelf, apartChildren, apartFollowing⟩ := Content.versionsApart_element_iff.mp apart
    have hbehind : ((scan.enterInner name).after children).leave.opened = scan.opened :=
      opened_leave_after
    have hfollowing := ihFollowing ((scan.enterInner name).after children).leave
      ((congrArg List.head? hbehind).trans hparent) (by rwa [hbehind])
    rw [after, Content.elements]
    by_cases version : (Xml.Element.mk parent name children).IsPolicyVersion
    -- The element is a version, so that there is none in it.
    · obtain ⟨hpolicy, hname⟩ := version
      have lacks := apartSelf ⟨hpolicy, hname⟩
      obtain rfl : name = "version" := hname
      obtain rfl : parent = some "sepolicy" := hpolicy
      obtain ⟨outer, hopened⟩ := List.head?_eq_some_iff.mp hparent
      obtain ⟨htext, hversions⟩ := versions_leave_of_version hopened fresh lacks
      obtain ⟨hfresh, hmem⟩ := hfollowing htext apartFollowing
      refine ⟨hfresh, fun text => ?_⟩
      have hself : (Xml.Element.mk (some "sepolicy") "version" children).IsPolicyVersion :=
        ⟨rfl, rfl⟩
      have hnone : ¬ ∃ e ∈ children.elements (some "version"),
          e.IsPolicyVersion ∧ e.children.ownText = text := by
        rintro ⟨e, he, hversion, _⟩
        exact Content.not_isPolicyVersion_of_lacks lacks (by simp) e he hversion
      rw [hmem, hversions]
      simp only [List.mem_cons, List.mem_append, or_and_right, exists_or, exists_eq_left, hself,
        hnone, true_and, false_or]
      rw [@eq_comm _ text, or_assoc, or_left_comm]
    -- The element is no version, but there may be some in it.
    · have hnot : ¬ (name = "version" ∧ scan.opened.head? = some "sepolicy") :=
        fun h => version ⟨hparent.symm.trans h.2, h.1⟩
      obtain ⟨htext, hversions⟩ := versions_leave_of_ne scan children hnot
      have hhead : (scan.enterInner name).opened.head? = some name := rfl
      have hinner := ihChildren (scan.enterInner name) hhead
        (fun rest hrest => hnot ⟨(List.cons.inj hrest).1, by rw [(List.cons.inj hrest).2]; rfl⟩)
        fresh apartChildren
      obtain ⟨hfresh, hmem⟩ := hfollowing (htext.trans hinner.1) apartFollowing
      refine ⟨hfresh, fun text => ?_⟩
      rw [hmem, hversions, hinner.2]
      simp only [List.mem_cons, List.mem_append, or_and_right, exists_or, exists_eq_left, version,
        false_and, false_or, versions_enterInner]
      rw [or_assoc]

end Vintf.ManifestScan

end Treble
