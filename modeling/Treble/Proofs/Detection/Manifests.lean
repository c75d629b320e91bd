import Treble.Detection.Detector
import Treble.Proofs.Except
import Treble.Proofs.Vintf.Files

/-!
# What the manifests of a device say together

The manifests are read in merge order. If all of them give facts, the facts are merged; if not, the
first one that gives none ends the detection.

## Main definitions

* `Detection.Device.ManifestsScan` — all located manifests give facts
* `Detection.Device.merged` — what the manifests that give facts say together

## Main results

* `Detection.Device.manifestSummary_eq_ok` — the merged facts, if all manifests give facts
* `Detection.ManifestSummary.sepolicyVersion_ofFacts` — the policy version of merged manifests
* `Detection.Device.exists_manifestSummary_eq_error` — the error of the first manifest that gives
  none
-/

namespace Treble.Detection

open Vintf (ManifestFacts)

/-- The policy version of merged manifests is the first one that there is. -/
theorem ManifestSummary.sepolicyVersion_foldl (manifests : List ManifestFacts)
    (summary : ManifestSummary) :
    (manifests.foldl add summary).sepolicyVersion =
      summary.sepolicyVersion.or (manifests.findSome? (·.sepolicyVersion)) := by
  induction manifests generalizing summary with
  | nil => simp
  | cons facts rest ih =>
    rw [List.foldl_cons, ih, add, Option.or_assoc, List.findSome?_cons]
    cases facts.sepolicyVersion <;> rfl

theorem ManifestSummary.sepolicyVersion_ofFacts (manifests : List ManifestFacts) :
    (ofFacts manifests).sepolicyVersion = manifests.findSome? (·.sepolicyVersion) :=
  sepolicyVersion_foldl manifests {}

namespace Device

variable {device : Device}

/-- All located manifests can be read and are XML. -/
def ManifestsScan (device : Device) : Prop :=
  ∀ path ∈ device.manifests.files,
    ∃ facts, ManifestFacts.ofFile device.root.files path = .ok facts

theorem manifestsScan_iff : device.ManifestsScan ↔
    (device.manifests.files.all fun path =>
      (ManifestFacts.ofFile device.root.files path).isOk) = true := by
  simp only [ManifestsScan, List.all_eq_true]
  refine forall₂_congr fun path _ => ?_
  cases ManifestFacts.ofFile device.root.files path <;> simp [Except.isOk, Except.toBool]

instance : Decidable device.ManifestsScan := decidable_of_iff' _ manifestsScan_iff

/-- What the manifests that give facts say together. -/
def merged (device : Device) : ManifestSummary :=
  .ofFacts (device.manifests.files.filterMap fun path =>
    (ManifestFacts.ofFile device.root.files path).toOption)

section SameFiles

variable {other : Device} (root : other.root = device.root)
  (vendorSku : other.vendorSku = device.vendorSku)
  (hardwareSku : other.hardwareSku = device.hardwareSku)

include root vendorSku hardwareSku

/-- Two devices with the same files and the same variants have the same manifests. -/
theorem manifests_congr : other.manifests = device.manifests := by
  simp only [manifests, root, vendorSku, hardwareSku]

theorem manifestsScan_congr : other.ManifestsScan ↔ device.ManifestsScan := by
  rw [ManifestsScan, ManifestsScan, manifests_congr root vendorSku hardwareSku, root]

theorem merged_congr : other.merged = device.merged := by
  rw [merged, merged, manifests_congr root vendorSku hardwareSku, root]

end SameFiles

/-- If all manifests give facts, detection goes by the merged ones. -/
theorem manifestSummary_eq_ok (scan : device.ManifestsScan) :
    device.manifestSummary = .ok device.merged := by
  rw [manifestSummary, ManifestSummary.ofFiles, mapM_eq_ok scan]
  rfl

/-- If some manifest gives no facts, the error is that of the first such one. -/
theorem exists_manifestSummary_eq_error (noScan : ¬ device.ManifestsScan) :
    ∃ before path after error, device.manifests.files = before ++ path :: after ∧
      (∀ other ∈ before, ∃ facts, ManifestFacts.ofFile device.root.files other = .ok facts) ∧
      ManifestFacts.ofFile device.root.files path = .error error ∧
      device.manifestSummary = .error error := by
  obtain ⟨before, path, after, error, hsplit, hbefore, hpath, hmap⟩ := exists_mapM_eq_error noScan
  refine ⟨before, path, after, error, hsplit, hbefore, hpath, ?_⟩
  rw [manifestSummary, ManifestSummary.ofFiles, hmap]
  rfl

/-- If some manifest gives no facts and all before it do, its error is that of the manifests. -/
theorem manifestSummary_eq_error {before after : List String} {path : String}
    {error : Vintf.Error} (split : device.manifests.files = before ++ path :: after)
    (scanned : ∀ other ∈ before, ∃ facts, ManifestFacts.ofFile device.root.files other = .ok facts)
    (fails : ManifestFacts.ofFile device.root.files path = .error error) :
    device.manifestSummary = .error error := by
  rw [manifestSummary, ManifestSummary.ofFiles, split, mapM_eq_error scanned fails]
  rfl

/-- An error of the manifests comes from one of their files. -/
theorem isOfFile_of_manifestSummary {error : Vintf.Error}
    (h : device.manifestSummary = .error error) : error.IsOfFile := by
  have noScan : ¬ device.ManifestsScan := by
    intro scan
    rw [manifestSummary_eq_ok scan] at h
    cases h
  obtain ⟨_, path, _, cause, _, _, hpath, hcause⟩ := exists_manifestSummary_eq_error noScan
  rw [hcause] at h
  cases h
  exact ManifestFacts.isOfFile_of_ofFile hpath

end Device

end Treble.Detection
