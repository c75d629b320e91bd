import Treble.Engine.Script
import Treble.Proofs.Detection.Findings
import Treble.Proofs.Detection.Merging

/-!
# When Treble is denied

A device is only found not to support Treble if no property and no reply of the engine confirms
that it does, and if something speaks against it: the framework matrices, the HALs, or a policy
version that only devices with Treble have.

## Main definitions

* `Detection.Device.Denied` — what speaks against Treble

## Main results

* `Detection.Device.detect_notTreble_iff` — when Treble is denied
-/

namespace Treble.Detection.Device

open Vintf (ManifestFacts)

variable {σ : Type}

/-- What speaks against a device that no property confirms. -/
inductive Denied (device : Device) (engine : Engine σ) (state : σ) : Prop
  /-- The manifests name a policy version, and no framework matrix accepts the device. -/
  | byMatrices (rejected : device.matrixAnswer engine state = some (.ok .incompatible))
  /-- The check against the matrices is not made or decides nothing, and the HALs do not comply. -/
  | byHals (undecided : device.Undecided engine state)
      (failing : compliance device.merged.passthroughHals = .none)
  /-- The check decides nothing and the HALs comply, but the policy version is not an old one. -/
  | byVersion {version : Version} (manifest : device.merged.sepolicyVersion = some version)
      (recent : ⟨28, 0⟩ ≤ version)
      (undecided : device.matrixAnswer engine state = some (.ok .indeterminate))
      (compliant : compliance device.merged.passthroughHals ≠ .none)

variable {device : Device} {engine : Engine σ} {state : σ}

/-- What speaks against an unconfirmed device is a way to the verdict that Treble is denied. -/
theorem Denied.detected (denied : device.Denied engine state) (readable : device.Readable)
    (unconfirmed : ¬ device.PropertyConfirms) :
    Detected device engine state (.ok .notTreble) := by
  cases denied with
  | byMatrices rejected => exact .matricesDeny readable rejected unconfirmed
  | byHals undecided failing =>
    exact .halsDeny readable undecided.passesMatrices failing
      (mt undecided.confirmed_iff.mp unconfirmed)
  | byVersion manifest recent indeterminate compliant =>
    have undecided : device.Undecided engine state := Or.inr indeterminate
    have unsupported := mt undecided.confirmed_iff.mp unconfirmed
    refine .versionDenies readable undecided.passesMatrices compliant ?_
    exact .denied (vndkProperty_eq_none unconfirmed)
      (supportsTreble_finalEvidence_eq_false_iff.mpr unsupported) manifest recent

/-- Every way to the verdict that Treble is denied has something that speaks against it, on a device
that nothing confirms. -/
theorem denied_of_detected (way : Detected device engine state (.ok .notTreble)) :
    device.Readable ∧ ¬ device.Confirmed engine state ∧ device.Denied engine state := by
  cases way with
  -- An engine that accepted the device would have kept the check from rejecting it.
  | matricesDeny readable rejected unconfirmed =>
    refine ⟨readable, not_or.mpr ⟨unconfirmed, ?_⟩, .byMatrices rejected⟩
    simp [← matrixAnswer_eq_compatible_iff, rejected]
  | halsDeny readable passes failing unconfirmed =>
    have unmatched := (not_or.mp unconfirmed).2
    exact ⟨readable, unconfirmed, .byHals (passes.undecided unmatched) failing⟩
  | versionDenies readable passes compliant way =>
    cases way with
    | denied _ unsupported manifest recent =>
      have unconfirmed := supportsTreble_finalEvidence_eq_false_iff.mp unsupported
      have undecided := passes.undecided (not_or.mp unconfirmed).2
      exact ⟨readable, unconfirmed,
        .byVersion manifest recent (undecided.eq_indeterminate manifest) compliant⟩

/-- Treble is denied iff it is said whether the VNDK is the reduced one, no property confirms
Treble, all located manifests can be read and are XML, and something speaks against Treble. In
particular it is never denied where a property or the engine confirms it. What the manifests say is
merged from all that are located. -/
theorem detect_notTreble_iff (device : Device) (engine : Engine σ) (state : σ) :
    ((device.detect engine state).1 = .ok .notTreble ↔
      device.properties Property.vndkLite ≠ none ∧ ¬ device.PropertyConfirms ∧
        (∀ path ∈ device.manifests.files,
          ∃ facts, ManifestFacts.ofFile device.root.files path = .ok facts) ∧
        device.Denied engine state) ∧
      ¬ ((device.PropertyConfirms ∨ device.EngineMatches engine state) ∧
        (device.detect engine state).1 = .ok .notTreble) ∧
      device.merged.IsMergeOf (factsAt device.root.files device.manifests.files) := by
  rw [← detected_iff]
  refine ⟨?_, ?_, device.isMergeOf_merged⟩
  · constructor
    · intro way
      obtain ⟨readable, unconfirmed, denied⟩ := denied_of_detected way
      have unclaimed : ¬ device.PropertyConfirms := (not_or.mp unconfirmed).1
      exact ⟨readable.liteSet, unclaimed, readable.scan, denied⟩
    · rintro ⟨liteSet, unconfirmed, scan, denied⟩
      exact denied.detected ⟨liteSet, scan⟩ unconfirmed
  · rintro ⟨confirmed, way⟩
    obtain ⟨_, unconfirmed, _⟩ := denied_of_detected way
    exact unconfirmed confirmed

/-! ### Devices that nothing confirms -/

/-- A vendor with one manifest. The properties only say that the VNDK is not the reduced one. -/
def vendorOf (manifest : String) : Device :=
  { properties := fun name => if name = Property.vndkLite then some "false" else none
    root :=
      { path := "/"
        files := fun path =>
          if path = "/vendor/etc/vintf/manifest.xml" then .ok (.file (.ok manifest.toUTF8.toList))
          else .error .notFound } }

/-- A vendor whose manifest names a version that only devices with Treble have. -/
def recentVendor : Device :=
  vendorOf "<manifest><sepolicy><version>30.0</version></sepolicy></manifest>"

/-- A vendor whose manifest names no version, but a HAL that must not be a passthrough one. -/
def wifiVendor : Device :=
  vendorOf ("<manifest><hal><name>android.hardware.wifi</name>" ++
    "<transport>passthrough</transport></hal></manifest>")

theorem not_propertyConfirms_vendorOf (manifest : String) :
    ¬ (vendorOf manifest).PropertyConfirms := by
  have hproperties : (vendorOf manifest).properties = (vendorOf "").properties := rfl
  simp only [PropertyConfirms, vndkProperty, hproperties]
  decide

theorem manifestsScan_recentVendor : recentVendor.ManifestsScan := by
  decide +kernel

theorem manifestsScan_wifiVendor : wifiVendor.ManifestsScan := by
  decide +kernel

theorem merged_recentVendor : recentVendor.merged = { sepolicyVersion := some ⟨30, 0⟩ } := by
  decide +kernel

theorem sepolicyVersion_recentVendor : recentVendor.merged.sepolicyVersion = some ⟨30, 0⟩ := by
  rw [merged_recentVendor]

theorem merged_wifiVendor :
    wifiVendor.merged = { passthroughHals := .ofList ["android.hardware.wifi"] } := by
  decide +kernel

/-- Each of the three ways: the recent vendor is denied by its version without an engine and by the
matrices where they reject it, but not where one accepts it; the other one is denied by its HALs. -/
theorem detect_notTreble_iff_vendors :
    (recentVendor.detect Engine.absent ()).1 = .ok .notTreble ∧
    (recentVendor.detect Engine.scripted [.status (-2)]).1 = .ok .notTreble ∧
    (recentVendor.detect Engine.scripted [.status 1]).1 ≠ .ok .notTreble ∧
    (wifiVendor.detect Engine.absent ()).1 = .ok .notTreble ∧
    "android.hardware.wifi" ∈ wifiVendor.merged.passthroughHals := by
  have unconfirmed := not_propertyConfirms_vendorOf
  have named := sepolicyVersion_recentVendor
  have denial := detect_notTreble_iff recentVendor Engine.absent ()
  have rejection := detect_notTreble_iff recentVendor Engine.scripted [.status (-2)]
  have acceptance := detect_notTreble_iff recentVendor Engine.scripted [.status 1]
  have failure := detect_notTreble_iff wifiVendor Engine.absent ()
  refine ⟨denial.1.mpr ⟨by decide, unconfirmed _, manifestsScan_recentVendor, ?_⟩,
    rejection.1.mpr ⟨by decide, unconfirmed _, manifestsScan_recentVendor, ?_⟩, fun denied => ?_,
    failure.1.mpr ⟨by decide, unconfirmed _, manifestsScan_wifiVendor, ?_⟩, ?_⟩
  · have undecided := (undecided_absent recentVendor).eq_indeterminate named
    refine .byVersion named (by decide) undecided ?_
    rw [merged_recentVendor]
    decide
  · refine .byMatrices ?_
    rw [matrixAnswer_of_decisive named (fun _ => rfl) rfl, merged_recentVendor]
    rfl
  · have matched : recentVendor.matrixAnswer Engine.scripted [.status 1] =
        some (.ok .compatible) := by
      rw [matrixAnswer_of_decisive named (fun _ => rfl) rfl]
      rfl
    exact acceptance.2.1 ⟨.inr (matrixAnswer_eq_compatible_iff.mp matched), denied⟩
  · refine .byHals (undecided_absent wifiVendor) ?_
    rw [merged_wifiVendor]
    decide
  · rw [merged_wifiVendor]
    decide

end Treble.Detection.Device
