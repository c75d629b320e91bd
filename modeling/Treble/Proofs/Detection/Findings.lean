import Treble.Proofs.Detection.Manifests
import Treble.Proofs.Detection.MatrixCheck
import Treble.Proofs.Detection.Resolution

/-!
# The ways to a verdict

Detection weighs what the properties claim, what the manifests say, what the engine replies and
which version the sources tell. `Detected` lists what this can come to, one constructor for each way
through the tiers, with all that was found on that way. It describes `Device.detect` exactly, so that
what holds of a verdict is shown way by way.

## Main definitions

* `Detection.Device.PropertyConfirms`, `Detection.Device.EngineMatches` — what confirms Treble
* `Detection.Device.matrixAnswer` — what the check against the framework matrices comes to
* `Detection.Device.finalEvidence` — what is known when the version is resolved
* `Detection.Detected` — the ways to a verdict

## Main results

* `Detection.detected_iff` — the ways to a verdict are those of `Device.detect`
-/

namespace Treble.Detection

namespace Device

variable {σ : Type} {device : Device} {engine : Engine σ} {state : σ}

/-! ### What is found -/

/-- The version in the property that holds one. -/
def vndkProperty (device : Device) : Option Version :=
  (device.properties Property.vndkVersion).bind Version.parse

/-- Some property confirms that the device supports Treble. -/
def PropertyConfirms (device : Device) : Prop :=
  device.vndkProperty ≠ none ∨ device.properties.isTrue Property.trebleEnabled = true ∨
    device.properties.isTrue Property.vndkLite = true

instance (device : Device) : Decidable device.PropertyConfirms :=
  inferInstanceAs (Decidable (_ ≠ _ ∨ _ = _ ∨ _ = _))

/-- What the properties claim, a reduced VNDK only if it is said to be one. -/
def claimed (device : Device) : Claims :=
  { vndkProperty := device.vndkProperty
    enabled := device.properties.isTrue Property.trebleEnabled
    lite := device.properties.isTrue Property.vndkLite }

/-- What the check against the framework matrices comes to. It is made if the manifests name a
policy version. -/
def matrixAnswer (device : Device) (engine : Engine σ) (state : σ) :
    Option (Except Engine.Error MatrixVerdict) :=
  device.merged.sepolicyVersion.map fun version =>
    ((device.matrixCheck device.merged).run engine version state).1

/-- The first reply that is no mismatch, of the engine to the requests for the bundled matrices. They
are made if the manifests name a policy version. -/
def decisiveReply (device : Device) (engine : Engine σ) (state : σ) :
    Option (Except Engine.Error Engine.Outcome) :=
  device.merged.sepolicyVersion.bind fun version =>
    engine.decisiveReply ((device.matrixCheck device.merged).requests version) state

/-- The engine finds that the device meets a framework matrix. -/
def EngineMatches (device : Device) (engine : Engine σ) (state : σ) : Prop :=
  device.decisiveReply engine state = some (.ok .compatible)

/-- A property or the engine confirms that the device supports Treble. -/
def Confirmed (device : Device) (engine : Engine σ) (state : σ) : Prop :=
  device.PropertyConfirms ∨ device.EngineMatches engine state

/-- Whether the check finds the device compatible. -/
def matched (device : Device) (engine : Engine σ) (state : σ) : Bool :=
  match device.matrixAnswer engine state with
  | some (.ok .compatible) => true
  | _ => false

/-- What is known when the version is resolved. -/
def finalEvidence (device : Device) (engine : Engine σ) (state : σ) : Evidence :=
  evidence device.claimed device.merged (device.matched engine state)

/-- What is said of a device with Treble, given its version. -/
def factsWith (device : Device) (version : Version) : TrebleFacts :=
  { legacy := device.manifests.legacy
    lite := device.properties.isTrue Property.vndkLite
    upgradeCompliant := decide (compliance device.merged.passthroughHals = .upgrade)
    version := version }

/-- The properties and the manifests give all that detection needs of them. -/
structure Readable (device : Device) : Prop where
  liteSet : device.properties Property.vndkLite ≠ none
  scan : device.ManifestsScan

/-- The check against the framework matrices neither fails nor rejects the device. -/
structure PassesMatrices (device : Device) (engine : Engine σ) (state : σ) : Prop where
  noError : ∀ error, device.matrixAnswer engine state ≠ some (.error error)
  notRejected : device.matrixAnswer engine state ≠ some (.ok .incompatible)

/-- The check against the framework matrices is not made, or it decides nothing. -/
def Undecided (device : Device) (engine : Engine σ) (state : σ) : Prop :=
  device.matrixAnswer engine state = none ∨
    device.matrixAnswer engine state = some (.ok .indeterminate)

theorem claims_eq_ok (liteSet : device.properties Property.vndkLite ≠ none) :
    device.claims = .ok device.claimed := by
  obtain ⟨value, hvalue⟩ := Option.ne_none_iff_exists'.mp liteSet
  simp [claims, claimed, vndkProperty, hvalue, PropertyStore.isTrue, PropertyStore.flag?]

theorem confirmTreble_claimed_iff :
    device.claimed.confirmTreble = true ↔ device.PropertyConfirms := by
  simp [Claims.confirmTreble, claimed, PropertyConfirms, Option.isSome_iff_ne_none, or_assoc]

theorem matrixAnswer_eq_error_iff {error : Engine.Error} :
    device.matrixAnswer engine state = some (.error error) ↔
      device.decisiveReply engine state = some (.error error) := by
  rw [matrixAnswer, decisiveReply, Option.map_eq_some_iff, Option.bind_eq_some_iff]
  -- The two sides are compared part by part, so that the check is never evaluated.
  apply exists_congr
  intro version
  apply and_congr_right
  intro manifest
  exact MatrixCheck.fst_run_eq_error_iff

theorem matrixAnswer_eq_compatible_iff :
    device.matrixAnswer engine state = some (.ok .compatible) ↔
      device.EngineMatches engine state := by
  rw [matrixAnswer, EngineMatches, decisiveReply, Option.map_eq_some_iff,
    Option.bind_eq_some_iff]
  apply exists_congr
  intro version
  apply and_congr_right
  intro manifest
  exact MatrixCheck.fst_run_eq_compatible_iff

theorem matched_iff : device.matched engine state = true ↔ device.EngineMatches engine state := by
  rw [← matrixAnswer_eq_compatible_iff, matched]
  rcases device.matrixAnswer engine state with _ | _ | verdict
  · simp
  · simp
  · cases verdict <;> simp

/-- There is an answer iff the manifests name a policy version. -/
theorem matrixAnswer_eq_none_iff :
    device.matrixAnswer engine state = none ↔ device.merged.sepolicyVersion = none := by
  simp [matrixAnswer]

/-- Without an engine the check is not made or decides nothing. -/
theorem undecided_absent (device : Device) : device.Undecided Engine.absent () := by
  cases manifest : device.merged.sepolicyVersion with
  | none => exact Or.inl (matrixAnswer_eq_none_iff.mpr manifest)
  | some version =>
    refine Or.inr ?_
    rw [matrixAnswer, manifest, Option.map_some, MatrixCheck.fst_run_absent]

/-- Where every first reply is the same decisive one, it tells what the check comes to. -/
theorem matrixAnswer_of_decisive {version : Version}
    {reply : Except Engine.Error Engine.Outcome}
    (manifest : device.merged.sepolicyVersion = some version)
    (h : ∀ request, (engine.check request state).1 = reply) (decisive : Engine.isDecisive reply) :
    device.matrixAnswer engine state =
      some ((device.matrixCheck device.merged).verdictOn (some reply)) := by
  rw [matrixAnswer, manifest, Option.map_some, MatrixCheck.fst_run_of_decisive h decisive]

/-- A device that passes the check is found compatible, or the check decides nothing. -/
theorem PassesMatrices.undecided (passes : device.PassesMatrices engine state)
    (unmatched : ¬ device.EngineMatches engine state) : device.Undecided engine state := by
  rw [← matrixAnswer_eq_compatible_iff] at unmatched
  rcases hanswer : device.matrixAnswer engine state with _ | error | verdict
  · exact Or.inl hanswer
  · exact absurd hanswer (passes.noError error)
  · cases verdict with
    | compatible => exact absurd hanswer unmatched
    | incompatible => exact absurd hanswer passes.notRejected
    | indeterminate => exact Or.inr hanswer

theorem Undecided.passesMatrices (undecided : device.Undecided engine state) :
    device.PassesMatrices engine state := by
  rcases undecided with h | h <;> exact ⟨by simp [h], by simp [h]⟩

theorem Undecided.not_engineMatches (undecided : device.Undecided engine state) :
    ¬ device.EngineMatches engine state := by
  rw [← matrixAnswer_eq_compatible_iff]
  rcases undecided with h | h <;> simp [h]

/-- Where the check decides nothing, only a property can confirm Treble. -/
theorem Undecided.confirmed_iff (undecided : device.Undecided engine state) :
    device.Confirmed engine state ↔ device.PropertyConfirms :=
  or_iff_left undecided.not_engineMatches

/-- Where the manifests name a version, a check that decides nothing was made. -/
theorem Undecided.eq_indeterminate {version : Version}
    (undecided : device.Undecided engine state)
    (manifest : device.merged.sepolicyVersion = some version) :
    device.matrixAnswer engine state = some (.ok .indeterminate) := by
  apply undecided.resolve_left
  intro unasked
  rw [matrixAnswer_eq_none_iff.mp unasked] at manifest
  cases manifest

theorem vndkProperty_eq_none (unconfirmed : ¬ device.PropertyConfirms) :
    device.vndkProperty = none := by
  by_contra h
  exact unconfirmed (Or.inl h)

@[simp] theorem vndkProperty_finalEvidence :
    (device.finalEvidence engine state).vndkProperty = device.vndkProperty := rfl

@[simp] theorem manifestVersion_finalEvidence :
    (device.finalEvidence engine state).manifestVersion = device.merged.sepolicyVersion := rfl

@[simp] theorem supportsTreble_finalEvidence_iff :
    (device.finalEvidence engine state).supportsTreble = true ↔
      device.Confirmed engine state := by
  simp [finalEvidence, evidence, confirmTreble_claimed_iff, matched_iff, Confirmed]

@[simp] theorem supportsTreble_finalEvidence_eq_false_iff :
    (device.finalEvidence engine state).supportsTreble = false ↔
      ¬ device.Confirmed engine state := by
  rw [← supportsTreble_finalEvidence_iff, Bool.not_eq_true]

/-! ### What detection makes of it -/

section AnyCheck

-- What holds of every way of making the check is shown without opening `MatrixCheck.run`, whose
-- evaluation would read all bundled matrices.
variable {ask : MatrixCheck → Engine σ → Version → σ → Except Engine.Error MatrixVerdict × σ}

theorem detectBy_of_liteUnset (unset : device.properties Property.vndkLite = none) :
    device.detectBy ask engine state = (.error unknownLite, state) := by
  simp [detectBy, claims, unset]

theorem detectBy_of_manifestError {error : Vintf.Error}
    (liteSet : device.properties Property.vndkLite ≠ none)
    (fails : device.manifestSummary = .error error) :
    device.detectBy ask engine state = (.error (.vintf error), state) := by
  simp [detectBy, claims_eq_ok liteSet, fails]

theorem detectBy_of_noManifestVersion (readable : device.Readable)
    (noManifest : device.merged.sepolicyVersion = none) :
    device.detectBy ask engine state =
      (device.conclude device.claimed device.merged none, state) := by
  simp [detectBy, claims_eq_ok readable.liteSet, manifestSummary_eq_ok readable.scan, noManifest]

theorem detectBy_of_error {version : Version} {error : Engine.Error} {next : σ}
    (readable : device.Readable) (manifest : device.merged.sepolicyVersion = some version)
    (hask : ask (device.matrixCheck device.merged) engine version state = (.error error, next)) :
    device.detectBy ask engine state = (.error (.engine error), next) := by
  simp [detectBy, claims_eq_ok readable.liteSet, manifestSummary_eq_ok readable.scan, manifest,
    hask]

theorem detectBy_of_ok {version : Version} {verdict : MatrixVerdict} {next : σ}
    (readable : device.Readable) (manifest : device.merged.sepolicyVersion = some version)
    (hask : ask (device.matrixCheck device.merged) engine version state = (.ok verdict, next)) :
    device.detectBy ask engine state =
      (device.conclude device.claimed device.merged (some (version, verdict)), next) := by
  simp [detectBy, claims_eq_ok readable.liteSet, manifestSummary_eq_ok readable.scan, manifest,
    hask]

end AnyCheck

/-- The check is made where the manifests name a policy version. -/
theorem matrixAnswer_eq_some_iff {answer : Except Engine.Error MatrixVerdict} :
    device.matrixAnswer engine state = some answer ↔
      ∃ version next, device.merged.sepolicyVersion = some version ∧
        (device.matrixCheck device.merged).run engine version state = (answer, next) := by
  rw [matrixAnswer, Option.map_eq_some_iff]
  apply exists_congr
  intro version
  -- What the check comes to is a pair, and how it comes to it does not matter here.
  generalize (device.matrixCheck device.merged).run engine version state = pair
  obtain ⟨other, next⟩ := pair
  simp [eq_comm]

theorem fst_detect_of_matrixError {error : Engine.Error} (readable : device.Readable)
    (fails : device.matrixAnswer engine state = some (.error error)) :
    (device.detect engine state).1 = .error (.engine error) := by
  obtain ⟨version, next, manifest, hrun⟩ := matrixAnswer_eq_some_iff.mp fails
  rw [detect, detectBy_of_error readable manifest hrun]

theorem fst_detect_of_matrixVerdict {version : Version} {verdict : MatrixVerdict}
    (readable : device.Readable) (manifest : device.merged.sepolicyVersion = some version)
    (answers : device.matrixAnswer engine state = some (.ok verdict)) :
    (device.detect engine state).1 =
      device.conclude device.claimed device.merged (some (version, verdict)) := by
  obtain ⟨other, next, hother, hrun⟩ := matrixAnswer_eq_some_iff.mp answers
  obtain rfl := Option.some.inj (manifest.symm.trans hother)
  rw [detect, detectBy_of_ok readable manifest hrun]

theorem fst_detect_of_rejected {version : Version} (readable : device.Readable)
    (rejected : device.matrixAnswer engine state = some (.ok .incompatible))
    (manifest : device.merged.sepolicyVersion = some version) :
    (device.detect engine state).1 =
      if device.claimed.confirmTreble then .error (contradictedByMatrices version)
      else .ok .notTreble :=
  fst_detect_of_matrixVerdict readable manifest rejected

/-- A device that passes the check is judged by its HALs and the sources of the version. -/
theorem fst_detect_of_passes (readable : device.Readable)
    (passes : device.PassesMatrices engine state) :
    (device.detect engine state).1 =
      device.judge device.claimed device.merged (device.matched engine state) := by
  cases manifest : device.merged.sepolicyVersion with
  | none =>
    have hanswer : device.matrixAnswer engine state = none :=
      matrixAnswer_eq_none_iff.mpr manifest
    rw [detect, detectBy_of_noManifestVersion readable manifest, matched, hanswer]
    rfl
  | some version =>
    -- The check was made, and of what it can come to only two are left.
    rcases hanswer : device.matrixAnswer engine state with _ | error | verdict
    · rw [matrixAnswer_eq_none_iff.mp hanswer] at manifest
      cases manifest
    · exact absurd hanswer (passes.noError error)
    · rw [fst_detect_of_matrixVerdict readable manifest hanswer, matched, hanswer]
      cases verdict with
      | compatible => rfl
      | incompatible => exact absurd hanswer passes.notRejected
      | indeterminate => rfl

/-- A device whose HALs comply has the verdict that the sources of the version give. -/
theorem judge_of_compliant (compliant : compliance device.merged.passthroughHals ≠ .none) :
    device.judge device.claimed device.merged (device.matched engine state) =
      (resolve device.root (device.finalEvidence engine state)).map fun
        | none => .notTreble
        | some version => .treble (device.factsWith version) := by
  unfold judge
  -- The class of the HALs is part of the verdict, so that it is fixed in each of the two cases.
  split
  · contradiction
  · next h =>
    simp only [verdictOf, finalEvidence, factsWith, h]
    rfl
  · next h =>
    simp only [verdictOf, finalEvidence, factsWith, h]
    rfl

end Device

/-! ### The ways to a verdict -/

/-- The ways to a verdict, and what each of them comes to. -/
inductive Detected {σ : Type} (device : Device) (engine : Engine σ) (state : σ) :
    Except Error Verdict → Prop
  /-- It is not said whether the VNDK is the reduced one. -/
  | liteUnset (unset : device.properties Property.vndkLite = none) :
      Detected device engine state (.error unknownLite)
  /-- A manifest cannot be read or is no XML. -/
  | manifestFails {error : Vintf.Error} (liteSet : device.properties Property.vndkLite ≠ none)
      (fails : device.manifestSummary = .error error) :
      Detected device engine state (.error (.vintf error))
  /-- The engine is at fault. -/
  | engineFails {error : Engine.Error} (readable : device.Readable)
      (fails : device.matrixAnswer engine state = some (.error error)) :
      Detected device engine state (.error (.engine error))
  /-- A property confirms Treble and no matrix accepts the device. -/
  | matricesContradict {version : Version} (readable : device.Readable)
      (rejected : device.matrixAnswer engine state = some (.ok .incompatible))
      (manifest : device.merged.sepolicyVersion = some version)
      (confirms : device.PropertyConfirms) :
      Detected device engine state (.error (contradictedByMatrices version))
  /-- No property confirms Treble and no matrix accepts the device. -/
  | matricesDeny (readable : device.Readable)
      (rejected : device.matrixAnswer engine state = some (.ok .incompatible))
      (unconfirmed : ¬ device.PropertyConfirms) :
      Detected device engine state (.ok .notTreble)
  /-- Treble is confirmed and the HALs do not comply. -/
  | halsContradict (readable : device.Readable) (passes : device.PassesMatrices engine state)
      (failing : compliance device.merged.passthroughHals = .none)
      (confirmed : device.Confirmed engine state) :
      Detected device engine state (.error (contradictedByHals device.merged.passthroughHals))
  /-- Treble is not confirmed and the HALs do not comply. -/
  | halsDeny (readable : device.Readable) (passes : device.PassesMatrices engine state)
      (failing : compliance device.merged.passthroughHals = .none)
      (unconfirmed : ¬ device.Confirmed engine state) :
      Detected device engine state (.ok .notTreble)
  /-- No version can be had. -/
  | versionFails {error : Error} (readable : device.Readable)
      (passes : device.PassesMatrices engine state)
      (compliant : compliance device.merged.passthroughHals ≠ .none)
      (way : Resolved device.root (device.finalEvidence engine state) (.error error)) :
      Detected device engine state (.error error)
  /-- The version denies Treble. -/
  | versionDenies (readable : device.Readable) (passes : device.PassesMatrices engine state)
      (compliant : compliance device.merged.passthroughHals ≠ .none)
      (way : Resolved device.root (device.finalEvidence engine state) (.ok none)) :
      Detected device engine state (.ok .notTreble)
  /-- The device supports Treble. -/
  | treble {version : Version} (readable : device.Readable)
      (passes : device.PassesMatrices engine state)
      (compliant : compliance device.merged.passthroughHals ≠ .none)
      (way : Resolved device.root (device.finalEvidence engine state) (.ok (some version))) :
      Detected device engine state (.ok (.treble (device.factsWith version)))

section Ways

variable {σ : Type} {device : Device} {engine : Engine σ} {state : σ}

/-- A way to a verdict gives what `detect` gives. -/
theorem Detected.fst_detect_eq {verdict : Except Error Verdict}
    (h : Detected device engine state verdict) : (device.detect engine state).1 = verdict := by
  cases h with
  | liteUnset unset => rw [Device.detect, Device.detectBy_of_liteUnset unset]
  | manifestFails liteSet fails =>
    rw [Device.detect, Device.detectBy_of_manifestError liteSet fails]
  | engineFails readable fails => exact Device.fst_detect_of_matrixError readable fails
  | matricesContradict readable rejected manifest confirms =>
    rw [Device.fst_detect_of_rejected readable rejected manifest,
      if_pos (Device.confirmTreble_claimed_iff.mpr confirms)]
  | matricesDeny readable rejected unconfirmed =>
    obtain ⟨version, manifest, _⟩ := Option.map_eq_some_iff.mp rejected
    rw [Device.fst_detect_of_rejected readable rejected manifest,
      if_neg (mt Device.confirmTreble_claimed_iff.mp unconfirmed)]
  -- Whether the HALs contradict or deny hangs on the flag that the sources are asked with later.
  | halsContradict readable passes failing confirmed =>
    have supported := Device.supportsTreble_finalEvidence_iff.mpr confirmed
    rw [Device.fst_detect_of_passes readable passes]
    simp only [Device.finalEvidence, Device.evidence] at supported
    simp [Device.judge, failing, supported]
  | halsDeny readable passes failing unconfirmed =>
    have unsupported := Device.supportsTreble_finalEvidence_eq_false_iff.mpr unconfirmed
    rw [Device.fst_detect_of_passes readable passes]
    simp only [Device.finalEvidence, Device.evidence] at unsupported
    simp [Device.judge, failing, unsupported]
  | versionFails readable passes compliant way | versionDenies readable passes compliant way
  | treble readable passes compliant way =>
    rw [Device.fst_detect_of_passes readable passes, Device.judge_of_compliant compliant,
      way.resolve_eq]
    rfl

/-- A device that passes the check comes to some verdict. -/
theorem exists_detected_of_passes (readable : device.Readable)
    (passes : device.PassesMatrices engine state) :
    ∃ verdict, Detected device engine state verdict := by
  by_cases failing : compliance device.merged.passthroughHals = .none
  · by_cases confirmed : device.Confirmed engine state
    · exact ⟨_, .halsContradict readable passes failing confirmed⟩
    · exact ⟨_, .halsDeny readable passes failing confirmed⟩
  · obtain ⟨error | _ | version, way⟩ :=
      exists_resolved device.root (device.finalEvidence engine state)
    · exact ⟨_, .versionFails readable passes failing way⟩
    · exact ⟨_, .versionDenies readable passes failing way⟩
    · exact ⟨_, .treble readable passes failing way⟩

/-- There is always a way to a verdict. -/
theorem exists_detected (device : Device) (engine : Engine σ) (state : σ) :
    ∃ verdict, Detected device engine state verdict := by
  -- The checks are split in the order in which they are made: each is only reached if all before it
  -- are passed.
  by_cases liteSet : device.properties Property.vndkLite = none
  · exact ⟨_, .liteUnset liteSet⟩
  by_cases scan : device.ManifestsScan
  · have readable : device.Readable := ⟨liteSet, scan⟩
    by_cases fails : ∃ error, device.matrixAnswer engine state = some (.error error)
    · obtain ⟨error, herror⟩ := fails
      exact ⟨_, .engineFails readable herror⟩
    by_cases rejected : device.matrixAnswer engine state = some (.ok .incompatible)
    · by_cases confirms : device.PropertyConfirms
      · obtain ⟨version, manifest, _⟩ := Option.map_eq_some_iff.mp rejected
        exact ⟨_, .matricesContradict readable rejected manifest confirms⟩
      · exact ⟨_, .matricesDeny readable rejected confirms⟩
    · exact exists_detected_of_passes readable ⟨not_exists.mp fails, rejected⟩
  · obtain ⟨_, _, _, error, _, _, _, fails⟩ := Device.exists_manifestSummary_eq_error scan
    exact ⟨_, .manifestFails liteSet fails⟩

/-- The ways to a verdict are those of `detect`. -/
theorem detected_iff {verdict : Except Error Verdict} :
    Detected device engine state verdict ↔ (device.detect engine state).1 = verdict := by
  constructor
  · exact Detected.fst_detect_eq
  · rintro rfl
    obtain ⟨verdict, way⟩ := exists_detected device engine state
    rwa [way.fst_detect_eq]

end Ways

end Treble.Detection
