import Treble.Proofs.Detection.Findings

/-!
# Where a positive verdict comes from

What is said of a device with Treble comes from fixed places: the version from the first of four
sources that has one, and each of the three flags from one fact about the device. No such verdict is
given without support: a property or the engine confirms Treble, or an old manifest and the matrix
of the vendor agree on the version.

## Main definitions

* `Detection.Device.IsFirstVersion` — a version is the first one that the sources have
* `Detection.Device.FallsBack` — the only manifest is that of a vendor from before Treble

## Main results

* `Detection.Device.detect_treble` — where a positive verdict comes from
-/

namespace Treble.Detection.Device

open Vintf (DeviceRoot)

variable {σ : Type} {device : Device} {engine : Engine σ} {state : σ}

/-- The sources of the version, the one that counts most first. Two of them are read from files. -/
def versionSources (device : Device) : List (Except Vintf.Error (Option Version)) :=
  [.ok device.vndkProperty, .ok device.merged.sepolicyVersion, device.root.matrixVersion,
    device.root.sepolicyVersion]

/-- Some source has the version, and all sources before it have none. -/
def IsFirstVersion (device : Device) (version : Version) : Prop :=
  ∃ before after, device.versionSources = before ++ .ok (some version) :: after ∧
    ∀ source ∈ before, source = .ok none

/-- No manifest of a device with Treble is found, but that of a vendor from before Treble is. -/
def FallsBack (device : Device) : Prop :=
  device.root.modernManifests device.vendorSku device.hardwareSku = [] ∧
    device.root.legacyManifest ≠ none ∧
    device.manifests.files = [device.root.locate DeviceRoot.legacyPlace]

/-- The manifests are marked as legacy iff the search fell back. -/
theorem legacy_manifests_iff : device.manifests.legacy = true ↔ device.FallsBack := by
  unfold FallsBack manifests DeviceRoot.manifests
  -- The old place is looked at in any case, but what is there counts only where nothing else is.
  cases hmodern : device.root.modernManifests device.vendorSku device.hardwareSku with
  | cons first rest => simp
  | nil =>
    cases hlegacy : device.root.legacyManifest with
    | none => simp
    | some path =>
      have hpath := (DeviceRoot.readable?_eq_some_iff.mp hlegacy).2.2
      simp [hpath]

/-- The version that the sources come to is the first one that they have. -/
theorem exists_split_of_resolved {root : DeviceRoot} {evidence : Evidence} {version : Version}
    (way : Resolved root evidence (.ok (some version))) :
    ∃ before after, [.ok evidence.vndkProperty, .ok evidence.manifestVersion, root.matrixVersion,
        root.sepolicyVersion] = before ++ .ok (some version) :: after ∧
      ∀ source ∈ before, source = .ok none := by
  cases way with
  | byProperty present =>
    rw [present]
    exact ⟨[], _, rfl, by simp⟩
  | byManifests noProperty supported present =>
    rw [noProperty, present]
    exact ⟨[.ok none], _, rfl, by simp⟩
  | byMatrix reached supported present =>
    rw [reached.noProperty, reached.supported supported, present]
    exact ⟨[.ok none, .ok none], _, rfl, by simp⟩
  | byAgreement reached unsupported manifest matrix =>
    rw [reached.noProperty, manifest]
    exact ⟨[.ok none], _, rfl, by simp⟩
  | byPolicy reached present =>
    rw [reached.noProperty, reached.noManifest, reached.noMatrix, present]
    exact ⟨[.ok none, .ok none, .ok none], _, rfl, by simp⟩

/-- Without a confirmation, a version is only had where an old manifest and the matrix of the vendor
agree on it. -/
theorem agreement_of_resolved {version : Version} (passes : device.PassesMatrices engine state)
    (unconfirmed : ¬ device.Confirmed engine state)
    (way : Resolved device.root (device.finalEvidence engine state) (.ok (some version))) :
    device.merged.sepolicyVersion = some version ∧ version < ⟨28, 0⟩ ∧
      device.matrixAnswer engine state = some (.ok .indeterminate) ∧
      device.root.matrixVersion = .ok (some version) := by
  have unsupported : (device.finalEvidence engine state).supportsTreble ≠ true :=
    mt supportsTreble_finalEvidence_iff.mp unconfirmed
  cases way with
  -- A version in the property would be a confirmation, and all other sources but one ask for one.
  | byProperty present =>
    have noProperty := vndkProperty_eq_none (not_or.mp unconfirmed).1
    rw [vndkProperty_finalEvidence, noProperty] at present
    cases present
  | byManifests _ supported _ => exact absurd supported unsupported
  | byMatrix _ supported _ => exact absurd supported unsupported
  | byPolicy reached _ => exact absurd reached.supported unsupported
  | byAgreement reached _ manifest matrix =>
    have undecided := passes.undecided (not_or.mp unconfirmed).2
    exact ⟨manifest, reached.notRecent version manifest, undecided.eq_indeterminate manifest,
      matrix⟩

/-- The version of a positive verdict is the first one that the sources have; each flag says one
thing about the device; the HALs comply, if only for an upgrade; and Treble is confirmed by a
property or by the engine, or an old manifest and the matrix of the vendor agree on the version while
the engine decides nothing. -/
theorem detect_treble {facts : TrebleFacts}
    (positive : (device.detect engine state).1 = .ok (.treble facts)) :
    device.ManifestsScan ∧ device.IsFirstVersion facts.version ∧
      (facts.lite = true ↔ device.properties.isTrue Property.vndkLite = true) ∧
      (facts.legacy = true ↔ device.FallsBack) ∧
      (facts.upgradeCompliant = true ↔ compliance device.merged.passthroughHals = .upgrade) ∧
      compliance device.merged.passthroughHals ≠ .none ∧
      (device.PropertyConfirms ∨ device.EngineMatches engine state ∨
        ∃ version, device.merged.sepolicyVersion = some version ∧ version < ⟨28, 0⟩ ∧
          device.matrixAnswer engine state = some (.ok .indeterminate) ∧
          device.root.matrixVersion = .ok (some version)) := by
  cases detected_iff.mpr positive with
  | @treble version readable passes compliant way =>
    have first : device.IsFirstVersion version := exists_split_of_resolved way
    refine ⟨readable.scan, first, Iff.rfl, legacy_manifests_iff, decide_eq_true_iff, compliant, ?_⟩
    by_cases confirmed : device.Confirmed engine state
    · exact confirmed.imp_right Or.inl
    · have agreement := agreement_of_resolved passes confirmed way
      exact Or.inr (Or.inr ⟨version, agreement⟩)

/-! ### A device on which nothing confirms Treble -/

/-- A vendor from before 28.0 whose manifest and matrix name the same version. -/
def oldVendor : Device :=
  { properties := fun name => if name = Property.vndkLite then some "" else none
    root :=
      { path := "/"
        files := fun path =>
          if path = "/vendor/etc/vintf/manifest.xml" then .ok (.file (.ok manifest.toUTF8.toList))
          else if path = "/vendor/etc/vintf/compatibility_matrix.xml" then
            .ok (.file (.ok matrix.toUTF8.toList))
          else .error .notFound } }
where
  manifest : String := "<manifest><sepolicy><version>27</version></sepolicy></manifest>"
  matrix : String := "<matrix><vendor-ndk><version>27</version></vendor-ndk></matrix>"

theorem sepolicyVersion_oldVendor : oldVendor.merged.sepolicyVersion = some ⟨27, 0⟩ := by
  decide +kernel

theorem not_propertyConfirms_oldVendor : ¬ oldVendor.PropertyConfirms := by
  decide

/-- The way of the old vendor to its verdict, where there is no engine. -/
theorem detected_oldVendor :
    Detected oldVendor Engine.absent () (.ok (.treble (oldVendor.factsWith ⟨27, 0⟩))) := by
  have undecided := undecided_absent oldVendor
  have unsupported : (oldVendor.finalEvidence Engine.absent ()).supportsTreble = false :=
    supportsTreble_finalEvidence_eq_false_iff.mpr
      (mt undecided.confirmed_iff.mp not_propertyConfirms_oldVendor)
  -- Nothing confirms Treble, so that the manifests leave the question to the matrix.
  have reached : ReachesMatrix (oldVendor.finalEvidence Engine.absent ()) := by
    refine ⟨vndkProperty_eq_none not_propertyConfirms_oldVendor, by simp [unsupported], ?_⟩
    intro version manifest
    obtain rfl := Option.some.inj (sepolicyVersion_oldVendor.symm.trans manifest)
    decide
  have readable : oldVendor.Readable := ⟨by decide, by decide +kernel⟩
  have matrix : oldVendor.root.matrixVersion = .ok (some ⟨27, 0⟩) :=
    eq_ok_of_toOption (by decide +kernel)
  refine .treble readable undecided.passesMatrices (by decide +kernel) ?_
  exact .byAgreement reached unsupported sepolicyVersion_oldVendor matrix

/-- The old vendor is found to support Treble, since its manifest and its matrix agree. -/
theorem detect_treble_oldVendor :
    (oldVendor.detect Engine.absent ()).1 = .ok (.treble (oldVendor.factsWith ⟨27, 0⟩)) ∧
      oldVendor.IsFirstVersion ⟨27, 0⟩ ∧
      ∃ version, oldVendor.merged.sepolicyVersion = some version ∧ version < ⟨28, 0⟩ ∧
        oldVendor.matrixAnswer Engine.absent () = some (.ok .indeterminate) ∧
        oldVendor.root.matrixVersion = .ok (some version) := by
  have positive := detected_oldVendor.fst_detect_eq
  obtain ⟨_, first, _, _, _, _, proved⟩ := detect_treble positive
  exact ⟨positive, first, (proved.resolve_left not_propertyConfirms_oldVendor).resolve_left
    (undecided_absent oldVendor).not_engineMatches⟩

end Treble.Detection.Device
