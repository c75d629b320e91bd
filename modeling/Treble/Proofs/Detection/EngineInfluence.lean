import Treble.Proofs.Detection.Confirmation

/-!
# What the engine decides

The engine can confirm that a device supports Treble, deny it or fail, and so it decides whether
there is a positive verdict. It has no say in what such a verdict says: two engines that both lead
to one lead to the same. Where the manifests name no policy version there is nothing to ask an
engine, and none has any influence.

## Main definitions

* `Detection.Device.accepting` — the engine that finds that every device meets every matrix

## Main results

* `Detection.Resolved.version_unique` — the sources tell no two versions, confirmed or not
* `Detection.Device.exists_detect_eq` — without a policy version the verdict is the same for all
  engines
* `Detection.Device.detect_two_engines` — what two engines can make of one device
-/

namespace Treble.Detection

open Vintf (DeviceRoot ManifestFacts)

/-- Two versions that the sources tell are the same, whether Treble is confirmed or not. -/
theorem Resolved.version_unique {root : DeviceRoot} {evidence other : Evidence}
    {version otherVersion : Version} (property : other.vndkProperty = evidence.vndkProperty)
    (manifest : other.manifestVersion = evidence.manifestVersion)
    (way : Resolved root evidence (.ok (some version)))
    (otherWay : Resolved root other (.ok (some otherVersion))) : version = otherVersion := by
  -- Without a confirmation the matrix may tell the version and with one the manifests, but what is
  -- told without one is told with one too, and with one the evidence is the same.
  have same : other.confirm = evidence.confirm := Evidence.eq_confirm property manifest rfl
  have confirmed := resolved_iff.mp way.confirm
  have otherConfirmed := resolved_iff.mp otherWay.confirm
  rw [← same, otherConfirmed] at confirmed
  exact (Option.some.inj (Except.ok.inj confirmed)).symm

namespace Device

variable {device : Device}

/-- No located manifest names a policy version. -/
def NamesNoVersion (device : Device) : Prop :=
  ∀ path ∈ device.manifests.files, ∀ facts,
    ManifestFacts.ofFile device.root.files path = .ok facts → facts.sepolicyVersion = none

theorem NamesNoVersion.merged (noVersion : device.NamesNoVersion) :
    device.merged.sepolicyVersion = none := by
  rw [Device.merged, ManifestSummary.sepolicyVersion_ofFacts, List.findSome?_eq_none_iff]
  intro facts hfacts
  obtain ⟨path, located, hpath⟩ := List.mem_filterMap.mp hfacts
  exact noVersion path located facts (eq_ok_of_toOption hpath)

/-- Where no manifest names a policy version, every engine is left in its state, and the verdict is
the same for all of them. -/
theorem exists_detect_eq (noVersion : device.NamesNoVersion) :
    ∃ verdict, ∀ {σ : Type} (engine : Engine σ) (state : σ),
      device.detect engine state = (verdict, state) := by
  by_cases liteSet : device.properties Property.vndkLite = none
  · exact ⟨_, fun _ _ => detectBy_of_liteUnset liteSet⟩
  by_cases scan : device.ManifestsScan
  · exact ⟨_, fun _ _ => detectBy_of_noManifestVersion ⟨liteSet, scan⟩ noVersion.merged⟩
  · obtain ⟨_, _, _, error, _, _, _, fails⟩ := exists_manifestSummary_eq_error scan
    exact ⟨_, fun _ _ => detectBy_of_manifestError liteSet fails⟩

/-- Two engines that both lead to a positive verdict lead to the same. Where no manifest names a
policy version, the two come to the same in any case, and neither of them is called: their records
of calls do not grow. -/
theorem detect_two_engines {σ τ : Type} (device : Device) (engine : Engine σ) (other : Engine τ)
    (state : σ) (otherState : τ) :
    (∀ facts otherFacts, (device.detect engine state).1 = .ok (.treble facts) →
      (device.detect other otherState).1 = .ok (.treble otherFacts) → facts = otherFacts) ∧
    ((∀ path ∈ device.manifests.files, ∀ facts,
        ManifestFacts.ofFile device.root.files path = .ok facts → facts.sepolicyVersion = none) →
      (device.detect engine state).1 = (device.detect other otherState).1 ∧
      ∀ calls, (device.detect engine.recorded (state, calls)).2 = (state, calls) ∧
        (device.detect other.recorded (otherState, calls)).2 = (otherState, calls)) := by
  constructor
  · intro facts otherFacts positive otherPositive
    cases detected_iff.mpr positive with
    | @treble version _ _ _ way =>
      cases detected_iff.mpr otherPositive with
      | @treble otherVersion _ _ _ otherWay =>
        -- The flags are facts about the device, and the evidence is the same but for the confirmation.
        have hversion : version = otherVersion := way.version_unique (by simp) (by simp) otherWay
        rw [hversion]
  · intro noVersion
    obtain ⟨verdict, hdetect⟩ := exists_detect_eq noVersion
    refine ⟨?_, fun calls => ?_⟩
    · rw [hdetect, hdetect]
    · rw [hdetect, hdetect]
      exact ⟨rfl, rfl⟩

/-! ### Two engines on the device of an old vendor -/

/-- The engine that finds that every device meets every matrix. -/
def accepting : Engine Unit where
  check _ state := (.ok .compatible, state)

theorem matrixAnswer_oldVendor_accepting :
    oldVendor.matrixAnswer accepting () = some (.ok .compatible) := by
  rw [matrixAnswer_of_decisive sepolicyVersion_oldVendor (fun _ => rfl) rfl]
  rfl

/-- The engine confirms Treble, so that the manifest alone tells the version of the old vendor. -/
theorem detected_oldVendor_accepting :
    Detected oldVendor accepting () (.ok (.treble (oldVendor.factsWith ⟨27, 0⟩))) := by
  have hanswer := matrixAnswer_oldVendor_accepting
  have confirmed : oldVendor.Confirmed accepting () :=
    Or.inr (matrixAnswer_eq_compatible_iff.mp hanswer)
  have readable : oldVendor.Readable := ⟨by decide, by decide +kernel⟩
  refine .treble readable ⟨by simp [hanswer], by simp [hanswer]⟩ (by decide +kernel) ?_
  exact .byManifests (vndkProperty_eq_none not_propertyConfirms_oldVendor)
    (supportsTreble_finalEvidence_iff.mpr confirmed) sepolicyVersion_oldVendor

/-- The old vendor gets one verdict from an engine that is never there and from one that accepts
every device, though it is confirmed by the second alone. -/
theorem detect_two_engines_oldVendor :
    (oldVendor.detect Engine.absent ()).1 = .ok (.treble (oldVendor.factsWith ⟨27, 0⟩)) ∧
      ∃ facts, (oldVendor.detect accepting ()).1 = .ok (.treble facts) ∧
        oldVendor.factsWith ⟨27, 0⟩ = facts := by
  have positive := detected_oldVendor.fst_detect_eq
  have accepted := detected_oldVendor_accepting.fst_detect_eq
  obtain ⟨unique, _⟩ := detect_two_engines oldVendor Engine.absent accepting () ()
  exact ⟨positive, _, accepted, unique _ _ positive accepted⟩

end Device

end Treble.Detection
