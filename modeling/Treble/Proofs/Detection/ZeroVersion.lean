import Treble.Proofs.Detection.Provenance
import Treble.Proofs.Version.Zero
import Treble.Proofs.Vintf.Tokens

/-!
# Devices with the version zero

The version of a positive verdict is spelled by some token on the device: in the property, in a
manifest, in the matrix of the vendor or in the version file. Only what is gathered from the policy
files has no token of its own, and that is never zero. So the version 0.0 comes from a token that
spells it, and where the property holds one there is a device of this version.

## Main definitions

* `Detection.Device.tokens` — the version tokens on a device

## Main results

* `Detection.Device.exists_token_of_treble` — where the version of a positive verdict is spelled
* `Detection.Device.detect_version_zero` — the version 0.0 is spelled by some token on the device
* `Detection.Device.detect_zeroVendor` — a device of the version 0.0
-/

namespace Treble.Detection.Device

open Vintf (ManifestFacts MatrixFacts tokensAt)

variable {σ : Type} {device : Device} {engine : Engine σ} {state : σ}

/-! ### Tokens on a device -/

/-- The version tokens on a device: the value of the property, and the texts of the version elements
in the manifests and in the matrix of the vendor and the first line of the version file. -/
def tokens (device : Device) : List String :=
  (device.properties Property.vndkVersion).toList ++
    device.manifests.files.flatMap (tokensAt device.root.files ManifestFacts.tokens) ++
    device.root.vendorMatrix?.toList.flatMap (tokensAt device.root.files MatrixFacts.tokens) ++
    device.root.declaredTokens

theorem exists_token_of_vndkProperty {version : Version}
    (h : device.vndkProperty = some version) :
    ∃ token ∈ device.tokens, Version.parse token = some version := by
  obtain ⟨token, htoken, hparse⟩ := Option.bind_eq_some_iff.mp h
  exact ⟨token, by simp [tokens, htoken], hparse⟩

theorem exists_token_of_merged {version : Version}
    (h : device.merged.sepolicyVersion = some version) :
    ∃ token ∈ device.tokens, Version.parse token = some version := by
  rw [merged, ManifestSummary.sepolicyVersion_ofFacts] at h
  obtain ⟨facts, hfacts, present⟩ := List.exists_of_findSome?_eq_some h
  obtain ⟨path, located, hpath⟩ := List.mem_filterMap.mp hfacts
  obtain ⟨token, htoken, hparse⟩ := ManifestFacts.exists_token (eq_ok_of_toOption hpath) present
  refine ⟨token, ?_, hparse⟩
  have hmem := List.mem_flatMap.mpr ⟨path, located, htoken⟩
  simp [tokens, hmem]

theorem exists_token_of_matrixVersion {version : Version}
    (h : device.root.matrixVersion = .ok (some version)) :
    ∃ token ∈ device.tokens, Version.parse token = some version := by
  obtain ⟨path, hpath, token, htoken, hparse⟩ :=
    Vintf.DeviceRoot.exists_token_of_matrixVersion h
  exact ⟨token, by simp [tokens, hpath, htoken], hparse⟩

/-- The version of a positive verdict is spelled by a token on the device, or it is the one that is
gathered from the policy files. -/
theorem exists_token_of_treble {facts : TrebleFacts}
    (positive : (device.detect engine state).1 = .ok (.treble facts)) :
    (∃ token ∈ device.tokens, Version.parse token = some facts.version) ∨
      device.root.scannedVersion = some facts.version := by
  cases detected_iff.mpr positive with
  | treble _ _ _ way =>
    cases way with
    | byProperty present => exact Or.inl (exists_token_of_vndkProperty present)
    | byManifests _ _ present => exact Or.inl (exists_token_of_merged present)
    | byMatrix _ _ present => exact Or.inl (exists_token_of_matrixVersion present)
    | byAgreement _ _ manifest _ => exact Or.inl (exists_token_of_merged manifest)
    | byPolicy _ present =>
      apply (Vintf.DeviceRoot.exists_token_of_sepolicyVersion present).imp_left
      rintro ⟨token, htoken, hparse⟩
      exact ⟨token, by simp [tokens, htoken], hparse⟩

/-- A token is read as the version 0.0 iff it spells it, and a device is only found to have this
version if one of its tokens spells it. The policy files never give it. -/
theorem detect_version_zero (device : Device) (engine : Engine σ) (state : σ) :
    (∀ token, Version.parse token = some ⟨0, 0⟩ ↔ Version.SpellsZero token) ∧
      device.root.scannedVersion ≠ some ⟨0, 0⟩ ∧
      ∀ facts, (device.detect engine state).1 = .ok (.treble facts) →
        facts.version = ⟨0, 0⟩ → ∃ token ∈ device.tokens, Version.SpellsZero token := by
  have scanned : device.root.scannedVersion ≠ some ⟨0, 0⟩ := by
    intro h
    exact absurd (Vintf.DeviceRoot.zero_lt_of_scannedVersion h) (by decide)
  refine ⟨fun _ => Version.parse_eq_zero_iff, scanned, ?_⟩
  intro facts positive zero
  rcases exists_token_of_treble positive with ⟨token, htoken, hparse⟩ | hscanned
  · rw [zero] at hparse
    exact ⟨token, htoken, Version.parse_eq_zero_iff.mp hparse⟩
  · rw [zero] at hscanned
    exact absurd hscanned scanned

/-! ### A device of the version 0.0 -/

/-- A vendor whose property spells zero with an empty second part, without any files. -/
def zeroVendor : Device :=
  { properties := fun name =>
      if name = Property.vndkLite then some "false"
      else if name = Property.vndkVersion then some "0."
      else none
    root := { path := "/", files := fun _ => .error .notFound } }

/-- A zero before an empty second part is read as the version 0.0, unlike one that stands alone, and
a device whose property says so has this version. -/
theorem detect_zeroVendor :
    Version.parse "0" = none ∧ Version.parse "0." = some ⟨0, 0⟩ ∧
      (zeroVendor.detect Engine.absent ()).1 =
        .ok (.treble
          { legacy := false, lite := false, upgradeCompliant := false, version := ⟨0, 0⟩ }) := by
  have hzero : Version.parse "0" = none := by decide
  have hparse : Version.parse "0." = some ⟨0, 0⟩ := by decide
  have readable : zeroVendor.Readable := ⟨by decide, by decide⟩
  have present : zeroVendor.vndkProperty = some ⟨0, 0⟩ := by decide
  have passes := (undecided_absent zeroVendor).passesMatrices
  have way := Detected.treble readable passes (by decide) (.byProperty present)
  exact ⟨hzero, hparse, way.fst_detect_eq⟩

end Treble.Detection.Device
