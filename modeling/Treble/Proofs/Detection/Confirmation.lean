import Mathlib.Logic.Function.Basic
import Treble.Proofs.Detection.Failure
import Treble.Proofs.Detection.Provenance

/-!
# More confirmation

A device that is given a property that confirms Treble, and is otherwise left as it is, keeps a
positive verdict, even where the version is then told by another source. It is never denied Treble,
and what was denied before is now a contradiction or tells the version of the manifests.

## Main definitions

* `Detection.Device.withProperty` — a device with one property set
* `Detection.Device.Reinforced` — two devices that differ in nothing but a confirmation

## Main results

* `Detection.Resolved.confirm` — a version that is had without a confirmation is had with one
* `Detection.Device.detect_withProperty` — what a confirming property changes
-/

namespace Treble.Detection

open Vintf (DeviceRoot)

/-! ### The sources of the version -/

/-- The evidence with a confirmation of Treble. -/
def Evidence.confirm (evidence : Evidence) : Evidence := { evidence with supportsTreble := true }

theorem Evidence.eq_confirm {evidence other : Evidence}
    (property : other.vndkProperty = evidence.vndkProperty)
    (manifest : other.manifestVersion = evidence.manifestVersion)
    (supported : other.supportsTreble = true) : other = evidence.confirm := by
  cases other
  simp_all [confirm]

section Sources

variable {root : DeviceRoot} {evidence : Evidence}

/-- A version that is had without a confirmation is had with one. What the manifests and the matrix
agreed on is then told by the manifests alone. -/
theorem Resolved.confirm {version : Version}
    (way : Resolved root evidence (.ok (some version))) :
    Resolved root evidence.confirm (.ok (some version)) := by
  cases way with
  | byProperty present => exact .byProperty present
  | byManifests noProperty _ present => exact .byManifests noProperty rfl present
  | byAgreement reached _ manifest _ => exact .byManifests reached.noProperty rfl manifest
  -- With a confirmation the manifests would come first, but there they name no version.
  | byMatrix reached supported present =>
    have hreached : ReachesMatrix evidence.confirm :=
      ⟨reached.noProperty, fun _ => reached.supported supported, reached.notRecent⟩
    exact .byMatrix hreached rfl present
  | byPolicy reached present =>
    have hreached : ReachesPolicy root evidence.confirm :=
      ⟨reached.noProperty, rfl, reached.noManifest, reached.noMatrix⟩
    exact .byPolicy hreached present

/-- The version for which the sources deny Treble is the one that they tell with a confirmation. -/
theorem Resolved.confirm_of_denied (way : Resolved root evidence (.ok none)) :
    ∃ version, evidence.manifestVersion = some version ∧ ⟨28, 0⟩ ≤ version ∧
      Resolved root evidence.confirm (.ok (some version)) := by
  cases way with
  | denied noProperty _ present recent =>
    exact ⟨_, present, recent, .byManifests noProperty rfl present⟩

end Sources

section Positive

variable {σ : Type} {device : Device} {engine : Engine σ} {state : σ} {facts : TrebleFacts}

theorem Detected.liteSet (way : Detected device engine state (.ok (.treble facts))) :
    device.properties Property.vndkLite ≠ none := by
  cases way with
  | treble readable => exact readable.liteSet

theorem Detected.lite_eq (way : Detected device engine state (.ok (.treble facts))) :
    facts.lite = device.properties.isTrue Property.vndkLite := by
  cases way with
  | treble => rfl

end Positive

namespace Device

/-! ### Two devices of which one has a confirmation more -/

/-- The second device differs from the first one in nothing but what its flags say, and it has a
confirmation. -/
structure Reinforced (device other : Device) : Prop where
  root : other.root = device.root
  vendorSku : other.vendorSku = device.vendorSku
  hardwareSku : other.hardwareSku = device.hardwareSku
  vndkProperty : other.vndkProperty = device.vndkProperty
  liteSet : other.properties Property.vndkLite ≠ none ↔ device.properties Property.vndkLite ≠ none
  confirms : other.PropertyConfirms

namespace Reinforced

variable {σ : Type} {device other : Device} {engine : Engine σ} {state : σ}

theorem manifests (h : device.Reinforced other) : other.manifests = device.manifests :=
  manifests_congr h.root h.vendorSku h.hardwareSku

theorem manifestSummary (h : device.Reinforced other) :
    other.manifestSummary = device.manifestSummary := by
  simp only [Device.manifestSummary, h.root, h.manifests]

theorem merged (h : device.Reinforced other) : other.merged = device.merged :=
  merged_congr h.root h.vendorSku h.hardwareSku

theorem matrixCheck (h : device.Reinforced other) (summary : ManifestSummary) :
    other.matrixCheck summary = device.matrixCheck summary := by
  simp only [Device.matrixCheck, h.root, h.vendorSku, h.hardwareSku]

/-- The engine is asked the same. -/
theorem matrixAnswer (h : device.Reinforced other) :
    other.matrixAnswer engine state = device.matrixAnswer engine state := by
  rw [Device.matrixAnswer, Device.matrixAnswer, h.merged, h.matrixCheck]

theorem readable (h : device.Reinforced other) (readable : device.Readable) : other.Readable where
  liteSet := h.liteSet.mpr readable.liteSet
  scan := (manifestsScan_congr h.root h.vendorSku h.hardwareSku).mpr readable.scan

theorem passes (h : device.Reinforced other) (passes : device.PassesMatrices engine state) :
    other.PassesMatrices engine state where
  noError := by
    rw [h.matrixAnswer]
    exact passes.noError
  notRejected := by
    rw [h.matrixAnswer]
    exact passes.notRejected

theorem finalEvidence (h : device.Reinforced other) :
    other.finalEvidence engine state = (device.finalEvidence engine state).confirm :=
  Evidence.eq_confirm h.vndkProperty (congrArg ManifestSummary.sepolicyVersion h.merged)
    (supportsTreble_finalEvidence_iff.mpr (Or.inl h.confirms))

/-- What the sources come to with the confirmation is what they come to on the second device. -/
theorem resolved (h : device.Reinforced other) {result : Except Error (Option Version)}
    (way : Resolved device.root (device.finalEvidence engine state).confirm result) :
    Resolved other.root (other.finalEvidence engine state) result := by
  rwa [h.root, h.finalEvidence]

theorem factsWith (h : device.Reinforced other) (version : Version) :
    other.factsWith version =
      { device.factsWith version with lite := other.properties.isTrue Property.vndkLite } := by
  simp only [Device.factsWith, h.manifests, h.merged]

/-- A positive verdict stays, but for what is said of the VNDK. -/
theorem detected_treble (h : device.Reinforced other) {facts : TrebleFacts}
    (way : Detected device engine state (.ok (.treble facts))) :
    Detected other engine state
      (.ok (.treble { facts with lite := other.properties.isTrue Property.vndkLite })) := by
  cases way with
  | @treble version readable passes compliant way =>
    rw [← h.factsWith]
    exact .treble (h.readable readable) (h.passes passes) (by rwa [h.merged])
      (h.resolved way.confirm)

/-- A confirmed device is never denied Treble. -/
theorem not_notTreble (h : device.Reinforced other) :
    ¬ Detected other engine state (.ok .notTreble) := by
  intro way
  obtain ⟨_, unconfirmed, _⟩ := denied_of_detected way
  exact unconfirmed (Or.inl h.confirms)

/-- What was denied is now a contradiction, or has the version of the manifests. -/
theorem detected_of_notTreble (h : device.Reinforced other)
    (way : Detected device engine state (.ok .notTreble)) :
    (∃ message context, Detected other engine state (.error (.inconsistent message context))) ∨
      ∃ version, device.merged.sepolicyVersion = some version ∧ ⟨28, 0⟩ ≤ version ∧
        Detected other engine state (.ok (.treble (other.factsWith version))) := by
  -- What was a denial by the matrices or the HALs has a confirmation against it now. The version that
  -- was a denial is the one that a confirmed device has.
  cases way with
  | matricesDeny readable rejected _ =>
    obtain ⟨version, manifest, _⟩ := Option.map_eq_some_iff.mp rejected
    rw [← h.merged] at manifest
    rw [← h.matrixAnswer] at rejected
    exact Or.inl ⟨_, _, .matricesContradict (h.readable readable) rejected manifest h.confirms⟩
  | halsDeny readable passes failing _ =>
    rw [← h.merged] at failing
    exact Or.inl ⟨_, _,
      .halsContradict (h.readable readable) (h.passes passes) failing (Or.inl h.confirms)⟩
  | versionDenies readable passes compliant way =>
    obtain ⟨version, manifest, recent, hway⟩ := way.confirm_of_denied
    rw [← h.merged] at compliant
    exact Or.inr ⟨version, manifest, recent,
      .treble (h.readable readable) (h.passes passes) compliant (h.resolved hway)⟩

/-- Where the word on the VNDK is missing, a manifest is at fault or the engine is, the confirmation
changes nothing. -/
theorem detect_eq (h : device.Reinforced other)
    (early : device.properties Property.vndkLite = none ∨ ¬ device.ManifestsScan ∨
      ∃ error, (device.detect engine state).1 = .error (.engine error)) :
    other.detect engine state = device.detect engine state := by
  -- Each of the three is looked at before the confirmation is, and all that is read until then is the
  -- same on both devices.
  by_cases liteSet : device.properties Property.vndkLite ≠ none
  · rcases early with unset | noScan | ⟨error, herror⟩
    · exact absurd unset liteSet
    · obtain ⟨_, _, _, error, _, _, _, fails⟩ := exists_manifestSummary_eq_error noScan
      rw [detect, detect, detectBy_of_manifestError liteSet fails,
        detectBy_of_manifestError (h.liteSet.mpr liteSet) (h.manifestSummary.trans fails)]
    · obtain ⟨readable, fails⟩ : device.Readable ∧ _ := (detected_iff.mpr herror).cause
      obtain ⟨version, next, manifest, hrun⟩ := matrixAnswer_eq_some_iff.mp fails
      have hother : other.merged.sepolicyVersion = some version := h.merged ▸ manifest
      rw [detect, detect, detectBy_of_error readable manifest hrun]
      rw [← h.matrixCheck, ← h.merged] at hrun
      rw [detectBy_of_error (h.readable readable) hother hrun]
  · have unset := not_ne_iff.mp liteSet
    have hunset := not_ne_iff.mp (mt h.liteSet.mp liteSet)
    rw [detect, detect, detectBy_of_liteUnset unset, detectBy_of_liteUnset hunset]

end Reinforced

/-! ### A property that confirms Treble -/

/-- The device with a property set to a value. -/
def withProperty (device : Device) (name value : String) : Device :=
  { device with properties := Function.update device.properties name (some value) }

section WithProperty

variable {device : Device} {name word : String}

theorem properties_withProperty_of_ne {other : String} (h : other ≠ name) :
    (device.withProperty name word).properties other = device.properties other :=
  Function.update_of_ne h _ _

theorem isTrue_withProperty_of_ne {other : String} (h : other ≠ name) :
    (device.withProperty name word).properties.isTrue other = device.properties.isTrue other := by
  rw [PropertyStore.isTrue, PropertyStore.flag?, properties_withProperty_of_ne h]
  rfl

theorem isTrue_withProperty (confirming : Property.parseFlag word = some true) :
    (device.withProperty name word).properties.isTrue name = true :=
  PropertyStore.isTrue_iff.mpr ⟨word, Function.update_self .., confirming⟩

/-- A device is reinforced by a property that is none of those that tell where its files are or which
version it has. -/
theorem reinforced_withProperty
    (other : ∀ read ∈ [Property.vendorSku, Property.hardwareSku, Property.vndkVersion], read ≠ name)
    (liteSet : (device.withProperty name word).properties Property.vndkLite ≠ none ↔
      device.properties Property.vndkLite ≠ none)
    (confirms : (device.withProperty name word).PropertyConfirms) :
    device.Reinforced (device.withProperty name word) where
  root := rfl
  vendorSku := properties_withProperty_of_ne (other _ (by simp))
  hardwareSku := properties_withProperty_of_ne (other _ (by simp))
  vndkProperty := by
    rw [vndkProperty, properties_withProperty_of_ne (other _ (by simp))]
    rfl
  liteSet := liteSet
  confirms := confirms

theorem reinforced_enabled (confirming : Property.parseFlag word = some true) :
    device.Reinforced (device.withProperty Property.trebleEnabled word) := by
  refine reinforced_withProperty (by decide) ?_ (Or.inr (Or.inl (isTrue_withProperty confirming)))
  rw [properties_withProperty_of_ne (by decide)]

theorem reinforced_lite (confirming : Property.parseFlag word = some true)
    (liteSet : device.properties Property.vndkLite ≠ none) :
    device.Reinforced (device.withProperty Property.vndkLite word) := by
  refine reinforced_withProperty (by decide) ?_ (Or.inr (Or.inr (isTrue_withProperty confirming)))
  exact iff_of_true (by simp [withProperty]) liteSet

end WithProperty

/-- Where the property that claims Treble support is set to a true word, whatever it was before, a
positive verdict stays the very same and Treble is not denied. What was denied before is now a
contradiction or has the version of the manifests, and an error from before the sources stays.
Where the VNDK is said to be the reduced one, a positive verdict stays but for that. -/
theorem detect_withProperty {σ : Type} (device : Device) (engine : Engine σ) (state : σ)
    {word : String} (confirming : Property.parseFlag word = some true) :
    (∀ facts, (device.detect engine state).1 = .ok (.treble facts) →
      ((device.withProperty Property.trebleEnabled word).detect engine state).1 =
        .ok (.treble facts)) ∧
    ((device.withProperty Property.trebleEnabled word).detect engine state).1 ≠ .ok .notTreble ∧
    ((device.detect engine state).1 = .ok .notTreble →
      (∃ message context,
        ((device.withProperty Property.trebleEnabled word).detect engine state).1 =
          .error (.inconsistent message context)) ∨
      ∃ facts, ((device.withProperty Property.trebleEnabled word).detect engine state).1 =
          .ok (.treble facts) ∧
        device.merged.sepolicyVersion = some facts.version ∧ ⟨28, 0⟩ ≤ facts.version) ∧
    (device.properties Property.vndkLite = none ∨ ¬ device.ManifestsScan ∨
        (∃ error, (device.detect engine state).1 = .error (.engine error)) →
      (device.withProperty Property.trebleEnabled word).detect engine state =
        device.detect engine state) ∧
    (∀ facts, (device.detect engine state).1 = .ok (.treble facts) →
      ((device.withProperty Property.vndkLite word).detect engine state).1 =
        .ok (.treble { facts with lite := true })) := by
  have enabled : device.Reinforced (device.withProperty Property.trebleEnabled word) :=
    reinforced_enabled confirming
  refine ⟨?_, ?_, ?_, enabled.detect_eq, ?_⟩
  · intro facts positive
    have way := detected_iff.mpr positive
    have hway := enabled.detected_treble way
    rw [isTrue_withProperty_of_ne (by decide), ← way.lite_eq] at hway
    exact hway.fst_detect_eq
  · intro denied
    exact enabled.not_notTreble (detected_iff.mpr denied)
  · intro denied
    obtain ⟨message, context, way⟩ | ⟨version, manifest, recent, way⟩ :=
      enabled.detected_of_notTreble (detected_iff.mpr denied)
    · exact Or.inl ⟨message, context, way.fst_detect_eq⟩
    · exact Or.inr ⟨_, way.fst_detect_eq, manifest, recent⟩
  -- A positive verdict is only given where the VNDK is said to be the reduced one or not.
  · intro facts positive
    have way := detected_iff.mpr positive
    have lite := reinforced_lite confirming way.liteSet
    have hway := lite.detected_treble way
    rw [isTrue_withProperty confirming] at hway
    exact hway.fst_detect_eq

/-- The old vendor keeps its verdict where a property comes to confirm it. -/
theorem detect_withProperty_oldVendor : Property.parseFlag "true" = some true ∧
    ((oldVendor.withProperty Property.trebleEnabled "true").detect Engine.absent ()).1 =
      .ok (.treble (oldVendor.factsWith ⟨27, 0⟩)) ∧
    ((oldVendor.withProperty Property.vndkLite "true").detect Engine.absent ()).1 =
      .ok (.treble { oldVendor.factsWith ⟨27, 0⟩ with lite := true }) := by
  have confirming : Property.parseFlag "true" = some true := by decide
  have positive := detected_oldVendor.fst_detect_eq
  obtain ⟨enabled, _, _, _, lite⟩ := detect_withProperty oldVendor Engine.absent () confirming
  exact ⟨confirming, enabled _ positive, lite _ positive⟩

end Device

end Treble.Detection
