import Treble.Proofs.Detection.Denial

/-!
# When detection fails

Whether the VNDK is the reduced one is looked at first, the manifests next, then the engine. Only
where none of them is at fault a device can contradict itself: a confirmation of Treble stands
against the framework matrices or the HALs, or the sources of the version say nothing or differ.

## Main definitions

* `Detection.Device.MatricesContradict`, `Detection.Device.HalsContradict`,
  `Detection.Device.SourcesContradict` — the three ways in which a device contradicts itself
* `Detection.Device.Cause` — what is behind an error of each kind

## Main results

* `Detection.Detected.cause` — every error has its cause
* `Detection.Device.detect_error_iff` — when detection fails, for each kind of error
-/

namespace Treble.Detection

open Vintf (DeviceRoot ManifestFacts)

variable {σ : Type}

namespace Device

/-- A property confirms Treble, and no framework matrix accepts the device. -/
def MatricesContradict (device : Device) (engine : Engine σ) (state : σ) : Prop :=
  device.matrixAnswer engine state = some (.ok .incompatible) ∧ device.PropertyConfirms

/-- A property or the engine confirms Treble, and the HALs do not comply. -/
def HalsContradict (device : Device) (engine : Engine σ) (state : σ) : Prop :=
  device.matrixAnswer engine state ≠ some (.ok .incompatible) ∧
    compliance device.merged.passthroughHals = .none ∧ device.Confirmed engine state

/-- The manifests name an old version, and the matrix of the vendor names another one. -/
def VersionsDiffer (device : Device) : Prop :=
  ∃ manifest matrix, device.merged.sepolicyVersion = some manifest ∧ manifest < ⟨28, 0⟩ ∧
    device.root.matrixVersion = .ok (some matrix) ∧ manifest ≠ matrix

/-- Nothing stands against a confirmation and nothing denies Treble, but the sources of the version
say nothing, or there is no confirmation and two of them differ. -/
def SourcesContradict (device : Device) (engine : Engine σ) (state : σ) : Prop :=
  ¬ device.MatricesContradict engine state ∧ ¬ device.HalsContradict engine state ∧
    ¬ (¬ device.PropertyConfirms ∧ device.Denied engine state) ∧
    (Undetermined device.root (device.finalEvidence engine state) ∨
      ¬ device.Confirmed engine state ∧ device.VersionsDiffer)

/-- What is behind an error of each kind. -/
def Cause (device : Device) (engine : Engine σ) (state : σ) : Error → Prop
  | .malformed .. => device.properties Property.vndkLite = none
  | .vintf cause => cause.IsOfFile
  | .engine cause =>
    device.Readable ∧ device.matrixAnswer engine state = some (.error cause)
  | .inconsistent .. =>
    device.Readable ∧ (∀ error, device.matrixAnswer engine state ≠ some (.error error)) ∧
      (device.MatricesContradict engine state ∨ device.HalsContradict engine state ∨
        device.SourcesContradict engine state)

variable {device : Device} {engine : Engine σ} {state : σ}

/-- Sources that contradict each other are only found where the check is passed. -/
theorem SourcesContradict.passes (contradict : device.SourcesContradict engine state)
    (noError : ∀ error, device.matrixAnswer engine state ≠ some (.error error)) :
    device.PassesMatrices engine state := by
  obtain ⟨noMatrices, _, notDenied, _⟩ := contradict
  refine ⟨noError, ?_⟩
  intro rejected
  by_cases confirms : device.PropertyConfirms
  · exact noMatrices ⟨rejected, confirms⟩
  · exact notDenied ⟨confirms, .byMatrices rejected⟩

/-- Sources that contradict each other are only found where the HALs comply. -/
theorem SourcesContradict.compliant (contradict : device.SourcesContradict engine state)
    (passes : device.PassesMatrices engine state) :
    compliance device.merged.passthroughHals ≠ .none := by
  obtain ⟨_, noHals, notDenied, _⟩ := contradict
  intro failing
  by_cases confirmed : device.Confirmed engine state
  · exact noHals ⟨passes.notRejected, failing, confirmed⟩
  · obtain ⟨unconfirmed, unmatched⟩ := not_or.mp confirmed
    exact notDenied ⟨unconfirmed, .byHals (passes.undecided unmatched) failing⟩

/-- Where the sources are asked, they contradict each other if they say nothing or differ. -/
theorem sourcesContradict_of_passes (readable : device.Readable)
    (passes : device.PassesMatrices engine state)
    (compliant : compliance device.merged.passthroughHals ≠ .none) {error : Error}
    (fails : (device.detect engine state).1 = .error error)
    (silentOrDiffer : Undetermined device.root (device.finalEvidence engine state) ∨
      ¬ device.Confirmed engine state ∧ device.VersionsDiffer) :
    device.SourcesContradict engine state := by
  refine ⟨?_, ?_, ?_, silentOrDiffer⟩
  · rintro ⟨rejected, _⟩
    exact passes.notRejected rejected
  · rintro ⟨_, failing, _⟩
    exact compliant failing
  -- A denial would be the verdict in place of the error.
  · rintro ⟨unconfirmed, denied⟩
    have hdenied := (denied.detected readable unconfirmed).fst_detect_eq
    rw [hdenied] at fails
    cases fails

end Device

variable {device : Device} {engine : Engine σ} {state : σ}

/-- An error of the sources has its cause. -/
theorem Resolved.cause {error : Error} (readable : device.Readable)
    (passes : device.PassesMatrices engine state)
    (compliant : compliance device.merged.passthroughHals ≠ .none)
    (way : Resolved device.root (device.finalEvidence engine state) (.error error)) :
    device.Cause engine state error := by
  have hcontradict := Device.sourcesContradict_of_passes readable passes compliant
    (Detected.versionFails readable passes compliant way).fst_detect_eq
  -- Of the four ways to an error two come from a file, and in the other two the sources contradict.
  cases way with
  | matrixFails _ fails => exact DeviceRoot.isOfFile_of_matrixVersion fails
  | policyFails _ fails => exact DeviceRoot.isOfFile_of_sepolicyVersion fails
  | undetermined silent =>
    exact ⟨readable, passes.noError, Or.inr (Or.inr (hcontradict (Or.inl silent)))⟩
  | conflict reached unsupported manifest matrix differ =>
    have unconfirmed := Device.supportsTreble_finalEvidence_eq_false_iff.mp unsupported
    have hdiffer : device.VersionsDiffer :=
      ⟨_, _, manifest, reached.notRecent _ manifest, matrix, differ⟩
    exact ⟨readable, passes.noError,
      Or.inr (Or.inr (hcontradict (Or.inr ⟨unconfirmed, hdiffer⟩)))⟩

/-- Every error has its cause. -/
theorem Detected.cause {error : Error} (way : Detected device engine state (.error error)) :
    device.Cause engine state error := by
  cases way with
  | liteUnset unset => exact unset
  | manifestFails _ fails => exact Device.isOfFile_of_manifestSummary fails
  | engineFails readable fails => exact ⟨readable, fails⟩
  | matricesContradict readable rejected _ confirms =>
    exact ⟨readable, by simp [rejected], Or.inl ⟨rejected, confirms⟩⟩
  | halsContradict readable passes failing confirmed =>
    exact ⟨readable, passes.noError, Or.inr (Or.inl ⟨passes.notRejected, failing, confirmed⟩)⟩
  | versionFails readable passes compliant way => exact way.cause readable passes compliant

namespace Device

/-- Sources that contradict each other are a way to an error. -/
theorem SourcesContradict.exists_detected (contradict : device.SourcesContradict engine state)
    (readable : device.Readable)
    (noError : ∀ error, device.matrixAnswer engine state ≠ some (.error error)) :
    ∃ message context, Detected device engine state (.error (.inconsistent message context)) := by
  have passes := contradict.passes noError
  have compliant := contradict.compliant passes
  obtain ⟨_, _, _, silent | ⟨unconfirmed, manifest, matrix, hmanifest, old, hmatrix, differ⟩⟩ :=
    contradict
  · exact ⟨_, _, .versionFails readable passes compliant (.undetermined silent)⟩
  · have unsupported := supportsTreble_finalEvidence_eq_false_iff.mpr unconfirmed
    obtain ⟨path, hpath, _⟩ := fromVendorMatrix_of_some hmatrix
    have reached : ReachesMatrix (device.finalEvidence engine state) := by
      refine ⟨vndkProperty_eq_none (not_or.mp unconfirmed).1, by simp [unsupported], ?_⟩
      intro version hversion
      obtain rfl := Option.some.inj (hmanifest.symm.trans hversion)
      exact old
    exact ⟨_, _, .versionFails readable passes compliant
      (.conflict reached unsupported hmanifest hmatrix differ hpath)⟩

/-- A device contradicts itself in one of three ways. -/
theorem exists_inconsistent_iff :
    (∃ message context, (device.detect engine state).1 = .error (.inconsistent message context)) ↔
      device.Readable ∧ (∀ error, device.matrixAnswer engine state ≠ some (.error error)) ∧
        (device.MatricesContradict engine state ∨ device.HalsContradict engine state ∨
          device.SourcesContradict engine state) := by
  simp only [← detected_iff]
  constructor
  · rintro ⟨message, context, way⟩
    exact way.cause
  · rintro ⟨readable, noError, ⟨rejected, confirms⟩ | ⟨notRejected, failing, confirmed⟩ | sources⟩
    · obtain ⟨version, manifest, _⟩ := Option.map_eq_some_iff.mp rejected
      exact ⟨_, _, .matricesContradict readable rejected manifest confirms⟩
    · exact ⟨_, _, .halsContradict readable ⟨noError, notRejected⟩ failing confirmed⟩
    · exact sources.exists_detected readable noError

theorem matrixAnswer_eq_error_iff_exists {error : Engine.Error} :
    device.matrixAnswer engine state = some (.error error) ↔
      ∃ version, device.merged.sepolicyVersion = some version ∧
        ((device.matrixCheck device.merged).requests version).length = 8 ∧
        engine.decisiveReply ((device.matrixCheck device.merged).requests version) state =
          some (.error error) := by
  rw [matrixAnswer_eq_error_iff, decisiveReply, Option.bind_eq_some_iff]
  apply exists_congr
  intro version
  apply and_congr_right
  intro manifest
  have length := MatrixCheck.length_requests (device.matrixCheck device.merged) version
  exact (and_iff_right length).symm

/-- The engine is at fault iff the detection comes to ask it, and the first of its eight replies that
is no mismatch is the error. -/
theorem engine_error_iff {error : Engine.Error} :
    (device.detect engine state).1 = .error (.engine error) ↔
      device.Readable ∧ ∃ version, device.merged.sepolicyVersion = some version ∧
        ((device.matrixCheck device.merged).requests version).length = 8 ∧
        engine.decisiveReply ((device.matrixCheck device.merged).requests version) state =
          some (.error error) := by
  rw [← detected_iff, ← matrixAnswer_eq_error_iff_exists]
  constructor
  · intro way
    exact way.cause
  · rintro ⟨readable, fails⟩
    exact .engineFails readable fails

/-- Without a word on the VNDK the error stands before a file is read or the engine is asked: it is
the same over all files, and the engine's record of its calls does not grow. -/
theorem liteUnset_iff :
    device.properties Property.vndkLite = none ↔
      ∀ (root : DeviceRoot) (calls : List Engine.Request),
        { device with root := root }.detect engine.recorded (state, calls) =
          (.error unknownLite, state, calls) := by
  constructor
  · intro unset root calls
    rw [detect]
    exact detectBy_of_liteUnset unset
  · intro h
    have hfst : (device.detect engine.recorded (state, [])).1 = .error unknownLite :=
      congrArg Prod.fst (h device.root [])
    exact (detected_iff.mpr hfst).cause

/-- When no source says anything, in terms of what is found on the device. -/
theorem undetermined_finalEvidence_iff :
    Undetermined device.root (device.finalEvidence engine state) ↔ device.vndkProperty = none ∧
      (device.Confirmed engine state ∧ device.merged.sepolicyVersion = none ∧
          device.root.matrixVersion = .ok none ∧ device.root.sepolicyVersion = .ok none ∨
        ¬ device.Confirmed engine state ∧
          (device.merged.sepolicyVersion = none ∧
              (∃ version?, device.root.matrixVersion = .ok version?) ∨
            ∃ version, device.merged.sepolicyVersion = some version ∧ version < ⟨28, 0⟩ ∧
              device.root.matrixVersion = .ok none)) := by
  rw [undetermined_iff, supportsTreble_finalEvidence_iff, supportsTreble_finalEvidence_eq_false_iff]
  rfl

/-- Input is malformed iff it is not said whether the VNDK is the reduced one, and then no file is
read and no call is made. The engine is at fault iff its decisive reply is an error. A closing tag is
never missing. A device contradicts itself iff nothing of this is the case and the matrices, the HALs
or the sources of the version contradict a confirmation or each other. What the manifests say is merged
from all that are located. -/
theorem detect_error_iff (device : Device) (engine : Engine σ) (state : σ) :
    ((∃ message context, (device.detect engine state).1 = .error (.malformed message context)) ↔
      device.properties Property.vndkLite = none) ∧
    (device.properties Property.vndkLite = none ↔
      ∀ (root : DeviceRoot) (calls : List Engine.Request),
        { device with root := root }.detect engine.recorded (state, calls) =
          (.error unknownLite, state, calls)) ∧
    (∀ error, (device.detect engine state).1 = .error (.engine error) ↔
      device.Readable ∧ ∃ version, device.merged.sepolicyVersion = some version ∧
        ((device.matrixCheck device.merged).requests version).length = 8 ∧
        engine.decisiveReply ((device.matrixCheck device.merged).requests version) state =
          some (.error error)) ∧
    (∀ name, (device.detect engine state).1 ≠ .error (.vintf (.missingClosingTag name))) ∧
    ((∃ message context,
        (device.detect engine state).1 = .error (.inconsistent message context)) ↔
      device.Readable ∧ (∀ error, device.matrixAnswer engine state ≠ some (.error error)) ∧
        (device.MatricesContradict engine state ∨ device.HalsContradict engine state ∨
          device.SourcesContradict engine state)) ∧
    (Undetermined device.root (device.finalEvidence engine state) ↔ device.vndkProperty = none ∧
      (device.Confirmed engine state ∧ device.merged.sepolicyVersion = none ∧
          device.root.matrixVersion = .ok none ∧ device.root.sepolicyVersion = .ok none ∨
        ¬ device.Confirmed engine state ∧
          (device.merged.sepolicyVersion = none ∧
              (∃ version?, device.root.matrixVersion = .ok version?) ∨
            ∃ version, device.merged.sepolicyVersion = some version ∧ version < ⟨28, 0⟩ ∧
              device.root.matrixVersion = .ok none))) ∧
    device.merged.IsMergeOf (factsAt device.root.files device.manifests.files) := by
  refine ⟨⟨?_, ?_⟩, liteUnset_iff, fun error => engine_error_iff, ?_, exists_inconsistent_iff,
    undetermined_finalEvidence_iff, device.isMergeOf_merged⟩
  · rintro ⟨message, context, malformed⟩
    exact (detected_iff.mpr malformed).cause
  · intro unset
    exact ⟨_, _, (Detected.liteUnset unset).fst_detect_eq⟩
  -- No file gives such an error, and the errors of the VINTF files come from files.
  · intro name missing
    exact (detected_iff.mpr missing).cause

/-! ### Devices at fault -/

/-- Properties that say that Treble is enabled, and that the VNDK is not the reduced one. -/
def enabledProperties : PropertyStore := fun name =>
  if name = Property.vndkLite then some "false"
  else if name = Property.trebleEnabled then some "true"
  else none

/-- The recent vendor with a confirmation. -/
def enabledRecentVendor : Device := { recentVendor with properties := enabledProperties }

/-- The vendor with a HAL at fault, with a confirmation. -/
def enabledWifiVendor : Device := { wifiVendor with properties := enabledProperties }

theorem merged_enabledRecentVendor :
    enabledRecentVendor.merged = { sepolicyVersion := some ⟨30, 0⟩ } :=
  (merged_congr rfl rfl rfl).trans merged_recentVendor

theorem merged_enabledWifiVendor :
    enabledWifiVendor.merged = { passthroughHals := .ofList ["android.hardware.wifi"] } :=
  (merged_congr rfl rfl rfl).trans merged_wifiVendor

/-- A device without manifests, of which nothing is said but that its VNDK is not the reduced one. -/
def bareDevice : Device :=
  { properties := recentVendor.properties, root := { path := "/", files := fun _ => .error .notFound } }

theorem matrixAnswer_enabledRecentVendor :
    enabledRecentVendor.matrixAnswer Engine.scripted [.status (-2)] = some (.ok .incompatible) := by
  have named : enabledRecentVendor.merged.sepolicyVersion = some ⟨30, 0⟩ := by
    rw [merged_enabledRecentVendor]
  rw [matrixAnswer_of_decisive named (fun _ => rfl) rfl, merged_enabledRecentVendor]
  rfl

theorem matrixAnswer_enabledWifiVendor :
    enabledWifiVendor.matrixAnswer Engine.absent () = none := by
  rw [matrixAnswer_eq_none_iff, merged_enabledWifiVendor]

theorem halsContradict_enabledWifiVendor :
    enabledWifiVendor.HalsContradict Engine.absent () := by
  refine ⟨by simp [matrixAnswer_enabledWifiVendor], ?_, .inl (by decide)⟩
  rw [merged_enabledWifiVendor]
  decide

theorem merged_bareDevice : bareDevice.merged = {} := by
  decide +kernel

theorem matrixAnswer_bareDevice : bareDevice.matrixAnswer Engine.absent () = none := by
  rw [matrixAnswer_eq_none_iff, merged_bareDevice]

/-- Nothing speaks against a device without manifests, but no source has a version for it. -/
theorem sourcesContradict_bareDevice : bareDevice.SourcesContradict Engine.absent () := by
  have unasked := matrixAnswer_bareDevice
  have compliant : compliance bareDevice.merged.passthroughHals ≠ .none := by
    rw [merged_bareDevice]
    decide
  have noVersion : bareDevice.merged.sepolicyVersion = none := by rw [merged_bareDevice]
  have unconfirmed : ¬ bareDevice.Confirmed Engine.absent () :=
    mt (undecided_absent bareDevice).confirmed_iff.mp (by decide)
  refine ⟨?_, fun contradict => compliant contradict.2.1, ?_, .inl ?_⟩
  · simp [MatricesContradict, unasked]
  · rintro ⟨_, denied⟩
    cases denied with
    | byMatrices rejected => simp [unasked] at rejected
    | byHals _ failing => exact compliant failing
    | byVersion manifest => simp [noVersion] at manifest
  · exact undetermined_finalEvidence_iff.mpr
      ⟨by decide, .inr ⟨unconfirmed, .inl ⟨noVersion, none, rfl⟩⟩⟩

/-- An error of each kind: there is no word on the VNDK, the engine fails, a confirmation stands against
the matrices or the HALs, and no source has a version. -/
theorem detect_error_iff_vendors :
    (∃ message context, ({ bareDevice with properties := .empty }.detect Engine.absent ()).1 =
      .error (.malformed message context)) ∧
    (recentVendor.detect Engine.scripted [.failure .poisoned]).1 = .error (.engine .poisoned) ∧
    (∃ message context, (enabledRecentVendor.detect Engine.scripted [.status (-2)]).1 =
      .error (.inconsistent message context)) ∧
    (∃ message context, (enabledWifiVendor.detect Engine.absent ()).1 =
      .error (.inconsistent message context)) ∧
    ∃ message context, (bareDevice.detect Engine.absent ()).1 =
      .error (.inconsistent message context) := by
  obtain ⟨silent, -⟩ := detect_error_iff { bareDevice with properties := .empty } Engine.absent ()
  obtain ⟨-, -, failed, -⟩ := detect_error_iff recentVendor Engine.scripted [.failure .poisoned]
  obtain ⟨-, -, -, -, rejected, -⟩ :=
    detect_error_iff enabledRecentVendor Engine.scripted [.status (-2)]
  obtain ⟨-, -, -, -, noncompliant, -⟩ := detect_error_iff enabledWifiVendor Engine.absent ()
  obtain ⟨-, -, -, -, undetermined, -⟩ := detect_error_iff bareDevice Engine.absent ()
  have recentScan : enabledRecentVendor.ManifestsScan :=
    (manifestsScan_congr rfl rfl rfl).mpr manifestsScan_recentVendor
  have wifiScan : enabledWifiVendor.ManifestsScan :=
    (manifestsScan_congr rfl rfl rfl).mpr manifestsScan_wifiVendor
  refine ⟨silent.mpr rfl, (failed _).mpr ⟨⟨by decide, manifestsScan_recentVendor⟩, ?_⟩,
    rejected.mpr ⟨⟨by decide, recentScan⟩, ?_⟩, noncompliant.mpr ⟨⟨by decide, wifiScan⟩, ?_⟩,
    undetermined.mpr ⟨⟨by decide, by decide +kernel⟩, ?_⟩⟩
  · apply matrixAnswer_eq_error_iff_exists.mp
    rw [matrixAnswer_of_decisive sepolicyVersion_recentVendor (fun _ => rfl) rfl]
    rfl
  · have answer := matrixAnswer_enabledRecentVendor
    exact ⟨by simp [answer], .inl ⟨answer, by decide⟩⟩
  · exact ⟨by simp [matrixAnswer_enabledWifiVendor], .inr (.inl halsContradict_enabledWifiVendor)⟩
  · exact ⟨by simp [matrixAnswer_bareDevice], .inr (.inr sourcesContradict_bareDevice)⟩

end Device

end Treble.Detection
