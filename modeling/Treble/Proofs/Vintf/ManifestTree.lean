import Treble.Proofs.Version.Best
import Treble.Proofs.Vintf.ManifestVersions

/-!
# The facts of canonical manifests

A manifest is read tag by tag, but it means a tree. If no HAL stands in another one, and no policy in
a version of one, its facts are told by its elements, in whatever order and at whatever depth they
come.

## Main definitions

* `Xml.Content.HalsApart` — no HAL stands in another one
* `Xml.Content.policyVersions` — the versions of the policy that a tree declares
* `Vintf.ManifestFacts.Describe` — the facts are those that the elements of a manifest tell

## Main results

* `Vintf.ManifestFacts.parse_describe` — a canonical manifest is read as what its elements tell
-/

namespace Treble

namespace Xml.Content

/-- No HAL has another one in it. -/
def HalsApart (content : Content) : Prop :=
  ∀ e ∈ content.elements none, e.name = "hal" → ∀ inner ∈ e.descendants, inner.name ≠ "hal"

instance (content : Content) : Decidable content.HalsApart :=
  inferInstanceAs (Decidable (∀ _ ∈ _, _ = _ → ∀ _ ∈ _, _ ≠ _))

/-- The versions that are spelled by the texts of versions of the policy. -/
def policyVersions (content : Content) : Set Version :=
  {v | ∃ e ∈ content.elements none, e.IsPolicyVersion ∧ Version.parse e.children.ownText = some v}

end Xml.Content

namespace Vintf

open Xml (Content)

/-- The facts are those that the elements of a manifest tell. The root is one of the elements, and
alone has a level. -/
structure ManifestFacts.Describe (facts : ManifestFacts) (name : String)
    (attributes : List (String × String)) (children : Content) : Prop where
  greatest : ∀ v, facts.sepolicyVersion = some v ↔
    IsGreatest (Content.element name attributes children .done).policyVersions v
  without : facts.sepolicyVersion = none ↔
    (Content.element name attributes children .done).policyVersions = ∅
  passthroughHals : ∀ hal, hal ∈ facts.passthroughHals ↔
    ∃ e ∈ (Content.element name attributes children .done).elements none, e.IsPassthroughHal hal
  targetLevel : facts.targetLevel =
    if name = "manifest" then attributes.lookup "target-level" else none

namespace ManifestScan

/-- The versions spelled by the finished texts behind a tree are those that it declares. -/
theorem spelled_versions_after (name : String) (attributes : List (String × String))
    {content : Content} (apart : content.VersionsApart none) :
    {v | ∃ text ∈ ((start name attributes).after content).versions,
      Version.parse text = some v} = content.policyVersions := by
  obtain ⟨_, hmem⟩ := mem_versions_after (start name attributes) content rfl
    (fun _ h => List.cons_ne_nil _ _ h.symm) rfl apart
  ext v
  constructor
  · rintro ⟨text, htext, hv⟩
    rcases (hmem text).mp htext with hstart | ⟨e, he, version, rfl⟩
    · exact absurd hstart List.not_mem_nil
    · exact ⟨e, he, version, hv⟩
  · rintro ⟨e, he, version, hv⟩
    exact ⟨_, (hmem _).mpr (.inr ⟨e, he, version, rfl⟩), hv⟩

end ManifestScan

namespace ManifestFacts

/-- A canonical manifest is read as what its elements tell, if no HAL stands in another one, and no
policy in a version of one. -/
theorem parse_describe {name : String} {attributes : List (String × String)} {children : Content}
    (well : (Content.element name attributes children .done).WellFormed)
    (halsApart : (Content.element name attributes children .done).HalsApart)
    (versionsApart : (Content.element name attributes children .done).VersionsApart none) :
    ∃ facts,
      parse (String.ofList (Content.element name attributes children .done).spelling) = .ok facts ∧
      facts.Describe name attributes children := by
  have hspelled := ManifestScan.spelled_versions_after name attributes versionsApart
  refine ⟨_, parse_spelling well, ?_⟩
  constructor
  case greatest =>
    intro v
    rw [← hspelled]
    exact Version.best_eq_some_iff
  case without =>
    rw [← hspelled]
    exact Version.best_eq_none_iff
  case passthroughHals =>
    intro hal
    rw [ManifestScan.facts, ManifestScan.mem_passthroughHals_start]
    constructor
    · rintro ⟨e, he, declares, _⟩
      exact ⟨e, he, declares⟩
    · rintro ⟨e, he, declares⟩
      have lacks := Xml.Element.lacks_children_iff.mpr (halsApart e he declares.isHal)
      exact ⟨e, he, declares, lacks⟩
  case targetLevel => exact ManifestScan.targetLevel_after _ _

/-- A policy with a version of it for each text. -/
def policyOf (texts : List String) (following : Content) : Content :=
  .element "sepolicy" []
    (texts.foldr (fun text rest => .element "version" [] (.text text .done) rest) .done) following

/-- A manifest of a level, with two versions of the policy and a HAL. -/
def mixedManifest : Content :=
  .element "manifest" [("target-level", "4")]
    (.element "x" [] (halNamed "a" .done) (policyOf ["28.0", "30.0"] .done)) .done

/-- What the elements of a manifest tell is read from it. -/
theorem parse_describe_mixedManifest : mixedManifest.WellFormed ∧ mixedManifest.HalsApart ∧
    mixedManifest.VersionsApart none ∧
    ∃ facts, parse (String.ofList mixedManifest.spelling) = .ok facts ∧
      facts.sepolicyVersion = some ⟨30, 0⟩ ∧ "a" ∈ facts.passthroughHals ∧
      facts.targetLevel = some "4" := by
  have well : mixedManifest.WellFormed := by decide
  have halsApart : mixedManifest.HalsApart := by decide
  have versionsApart : mixedManifest.VersionsApart none := by decide
  obtain ⟨facts, hfacts, described⟩ := parse_describe well halsApart versionsApart
  have hmem : ∃ e ∈ mixedManifest.elements none,
      e.IsPolicyVersion ∧ Version.parse e.children.ownText = some ⟨30, 0⟩ := by decide
  have hbound : ∀ e ∈ mixedManifest.elements none,
      e.IsPolicyVersion → ∀ v ∈ Version.parse e.children.ownText, v ≤ ⟨30, 0⟩ := by decide
  have hgreatest : IsGreatest mixedManifest.policyVersions ⟨30, 0⟩ :=
    ⟨hmem, fun v ⟨e, he, version, hv⟩ => hbound e he version v hv⟩
  exact ⟨well, halsApart, versionsApart, facts, hfacts, (described.greatest _).mpr hgreatest,
    (described.passthroughHals "a").mpr (by decide), described.targetLevel⟩

end ManifestFacts

end Vintf

end Treble
