import Treble.Detection.Resolution
import Treble.Proofs.Vintf.Files

/-!
# The ways to a VNDK version

The four sources are asked in turn. `Resolved` lists what the evidence and the files of a device can
come to, one constructor for each way through the sources, with all that was found on that way. It
describes `resolve` exactly, so that what holds of a version is shown way by way.

## Main definitions

* `Detection.Undetermined` — no source says anything
* `Detection.Resolved` — the ways through the sources

## Main results

* `Detection.resolved_iff` — the ways through the sources are those of `resolve`
* `Detection.undetermined_iff` — when no source says anything, in terms of what was found
-/

namespace Treble

theorem Version.not_le {v w : Version} : ¬ v ≤ w ↔ w < v := by
  rw [Version.le_iff_key_le, Version.lt_iff_key_lt, Nat.not_le]

namespace Detection

open Vintf (DeviceRoot MatrixFacts)

variable {device : DeviceRoot} {evidence : Evidence}

/-! ### The matrix of the vendor as a source -/

theorem fromVendorMatrix_of_error {error : Vintf.Error}
    (fails : device.matrixVersion = .error error) :
    fromVendorMatrix device evidence = .error (.vintf error) := by
  unfold DeviceRoot.matrixVersion at fails
  unfold fromVendorMatrix
  cases hpath : device.vendorMatrix? with
  | none => simp [hpath] at fails
  | some path =>
    cases hfacts : MatrixFacts.ofFile device.files path with
    | error cause =>
      simp only [hpath, hfacts, Except.map, Except.error.injEq] at fails
      simp [hfacts, fails]
    | ok facts => simp [hpath, hfacts, Except.map] at fails

theorem fromVendorMatrix_of_none (absent : device.matrixVersion = .ok none) :
    fromVendorMatrix device evidence = .ok .inconclusive := by
  unfold DeviceRoot.matrixVersion at absent
  unfold fromVendorMatrix
  cases hpath : device.vendorMatrix? with
  | none => rfl
  | some path =>
    cases hfacts : MatrixFacts.ofFile device.files path with
    | error cause => simp [hpath, hfacts, Except.map] at absent
    | ok facts =>
      simp only [hpath, hfacts, Except.map, Except.ok.injEq] at absent
      simp [hfacts, absent]

/-- A version in the matrix is weighed, and the matrix stands at some path. -/
theorem fromVendorMatrix_of_some {version : Version}
    (present : device.matrixVersion = .ok (some version)) :
    ∃ path, device.vendorMatrix? = some path ∧
      ∀ evidence, fromVendorMatrix device evidence = weighMatrix evidence path version := by
  unfold DeviceRoot.matrixVersion at present
  cases hpath : device.vendorMatrix? with
  | none => simp [hpath] at present
  | some path =>
    cases hfacts : MatrixFacts.ofFile device.files path with
    | error cause => simp [hpath, hfacts, Except.map] at present
    | ok facts =>
      simp only [hpath, hfacts, Except.map, Except.ok.injEq] at present
      refine ⟨path, rfl, fun evidence => ?_⟩
      simp [fromVendorMatrix, hpath, hfacts, present]

/-! ### What each source leaves open -/

theorem fromProperty_eq_inconclusive_iff :
    fromProperty device evidence = .ok .inconclusive ↔ evidence.vndkProperty = none := by
  unfold fromProperty
  cases evidence.vndkProperty <;> simp [Resolution.ofVersion?]

theorem fromManifests_eq_inconclusive_iff :
    fromManifests device evidence = .ok .inconclusive ↔
      evidence.manifestVersion = none ∨ evidence.supportsTreble = false ∧
        ∃ version, evidence.manifestVersion = some version ∧ version < firstTrebleOnly := by
  unfold fromManifests
  cases evidence.manifestVersion with
  | none => simp
  | some version =>
    cases evidence.supportsTreble with
    | true => simp
    | false =>
      by_cases recent : firstTrebleOnly ≤ version
      · simp [recent, ← Version.not_le]
      · simp [recent, ← Version.not_le]

theorem fromVendorMatrix_eq_inconclusive_iff :
    fromVendorMatrix device evidence = .ok .inconclusive ↔
      device.matrixVersion = .ok none ∨ evidence.supportsTreble = false ∧
        evidence.manifestVersion = none ∧ ∃ version, device.matrixVersion = .ok (some version) := by
  rcases hmatrix : device.matrixVersion with error | _ | version
  · simp [fromVendorMatrix_of_error hmatrix]
  · simp [fromVendorMatrix_of_none hmatrix]
  · obtain ⟨path, _, hweigh⟩ := fromVendorMatrix_of_some hmatrix
    rw [hweigh, weighMatrix]
    cases evidence.supportsTreble with
    | true => simp
    | false =>
      cases evidence.manifestVersion with
      | none => simp
      | some manifest =>
        by_cases heq : manifest = version
        · simp [heq]
        · simp [heq]

theorem fromSepolicy_eq_inconclusive_iff :
    fromSepolicy device evidence = .ok .inconclusive ↔
      evidence.supportsTreble = false ∨ device.sepolicyVersion = .ok none := by
  unfold fromSepolicy
  cases evidence.supportsTreble with
  | false => simp
  | true => rcases device.sepolicyVersion with error | _ | version <;> simp [Resolution.ofVersion?]

/-! ### The ways through the sources -/

/-- No source says anything. -/
def Undetermined (device : DeviceRoot) (evidence : Evidence) : Prop :=
  ∀ source ∈ sources, source device evidence = .ok .inconclusive

/-- The first three sources leave the question to the policy. -/
structure ReachesPolicy (device : DeviceRoot) (evidence : Evidence) : Prop where
  noProperty : evidence.vndkProperty = none
  supported : evidence.supportsTreble = true
  noManifest : evidence.manifestVersion = none
  noMatrix : device.matrixVersion = .ok none

/-- The first two sources leave the question to the matrix: Treble is confirmed and the manifests
name no version, or it is not and they name none that denies it. -/
structure ReachesMatrix (evidence : Evidence) : Prop where
  noProperty : evidence.vndkProperty = none
  supported : evidence.supportsTreble = true → evidence.manifestVersion = none
  notRecent : ∀ version, evidence.manifestVersion = some version → version < firstTrebleOnly

/-- The ways through the sources, and what each of them comes to. -/
inductive Resolved (device : DeviceRoot) (evidence : Evidence) :
    Except Error (Option Version) → Prop
  /-- The property tells the version. -/
  | byProperty {version : Version} (present : evidence.vndkProperty = some version) :
      Resolved device evidence (.ok (some version))
  /-- Treble is confirmed and the manifests tell the version. -/
  | byManifests {version : Version} (noProperty : evidence.vndkProperty = none)
      (supported : evidence.supportsTreble = true)
      (present : evidence.manifestVersion = some version) :
      Resolved device evidence (.ok (some version))
  /-- Treble is not confirmed and the manifests name a version that denies it. -/
  | denied {version : Version} (noProperty : evidence.vndkProperty = none)
      (unsupported : evidence.supportsTreble = false)
      (present : evidence.manifestVersion = some version)
      (recent : firstTrebleOnly ≤ version) :
      Resolved device evidence (.ok none)
  /-- The matrix is asked and cannot be read. -/
  | matrixFails {error : Vintf.Error} (reached : ReachesMatrix evidence)
      (fails : device.matrixVersion = .error error) :
      Resolved device evidence (.error (.vintf error))
  /-- Treble is confirmed and the matrix tells the version. -/
  | byMatrix {version : Version} (reached : ReachesMatrix evidence)
      (supported : evidence.supportsTreble = true)
      (present : device.matrixVersion = .ok (some version)) :
      Resolved device evidence (.ok (some version))
  /-- Treble is not confirmed, and the manifests and the matrix agree. -/
  | byAgreement {version : Version} (reached : ReachesMatrix evidence)
      (unsupported : evidence.supportsTreble = false)
      (manifest : evidence.manifestVersion = some version)
      (matrix : device.matrixVersion = .ok (some version)) :
      Resolved device evidence (.ok (some version))
  /-- Treble is not confirmed, and the manifests and the matrix differ. -/
  | conflict {manifest matrix : Version} {path : String} (reached : ReachesMatrix evidence)
      (unsupported : evidence.supportsTreble = false)
      (manifestVersion : evidence.manifestVersion = some manifest)
      (matrixVersion : device.matrixVersion = .ok (some matrix))
      (differ : manifest ≠ matrix) (found : device.vendorMatrix? = some path) :
      Resolved device evidence (.error (differingVersions manifest matrix path))
  /-- The policy is asked and cannot be read. -/
  | policyFails {error : Vintf.Error} (reached : ReachesPolicy device evidence)
      (fails : device.sepolicyVersion = .error error) :
      Resolved device evidence (.error (.vintf error))
  /-- The policy tells the version. -/
  | byPolicy {version : Version} (reached : ReachesPolicy device evidence)
      (present : device.sepolicyVersion = .ok (some version)) :
      Resolved device evidence (.ok (some version))
  /-- No source says anything. -/
  | undetermined (silent : Undetermined device evidence) :
      Resolved device evidence (.error (noVersion evidence))

theorem undetermined_iff_sources :
    Undetermined device evidence ↔
      fromProperty device evidence = .ok .inconclusive ∧
        fromManifests device evidence = .ok .inconclusive ∧
        fromVendorMatrix device evidence = .ok .inconclusive ∧
        fromSepolicy device evidence = .ok .inconclusive := by
  simp [Undetermined, sources]

/-- No source says anything iff there is no property, and either Treble is confirmed and there is no
version at all, or it is not and the matrix, if it can be read, adds nothing to the manifests. -/
theorem undetermined_iff :
    Undetermined device evidence ↔ evidence.vndkProperty = none ∧
      (evidence.supportsTreble = true ∧ evidence.manifestVersion = none ∧
          device.matrixVersion = .ok none ∧ device.sepolicyVersion = .ok none ∨
        evidence.supportsTreble = false ∧
          (evidence.manifestVersion = none ∧ (∃ version?, device.matrixVersion = .ok version?) ∨
            ∃ version, evidence.manifestVersion = some version ∧ version < firstTrebleOnly ∧
              device.matrixVersion = .ok none)) := by
  rw [undetermined_iff_sources, fromProperty_eq_inconclusive_iff,
    fromManifests_eq_inconclusive_iff, fromVendorMatrix_eq_inconclusive_iff,
    fromSepolicy_eq_inconclusive_iff]
  apply and_congr_right
  intro noProperty
  -- With a confirmation each source is silent for want of a version. Without one the policy is silent
  -- in any case, and the matrix is where the manifests name no version to compare with.
  cases evidence.supportsTreble with
  | true => simp
  | false =>
    cases evidence.manifestVersion with
    | none => rcases device.matrixVersion with _ | _ | _ <;> simp
    | some version => simp

/-! ### The ways are those of `resolve` -/

theorem resolveBy_cons_of_error {source : Source} {error : Error}
    (h : source device evidence = .error error) (rest : List Source) :
    resolveBy device evidence (source :: rest) = .error error := by
  simp only [resolveBy, h]

theorem resolveBy_cons_of_confirmed {source : Source} {version : Version}
    (h : source device evidence = .ok (.confirmed version)) (rest : List Source) :
    resolveBy device evidence (source :: rest) = .ok (some version) := by
  simp only [resolveBy, h]

theorem resolveBy_cons_of_denied {source : Source}
    (h : source device evidence = .ok .denied) (rest : List Source) :
    resolveBy device evidence (source :: rest) = .ok none := by
  simp only [resolveBy, h]

theorem resolveBy_cons_of_inconclusive {source : Source}
    (h : source device evidence = .ok .inconclusive) (rest : List Source) :
    resolveBy device evidence (source :: rest) = resolveBy device evidence rest := by
  simp only [resolveBy, h]

theorem resolve_of_noProperty (noProperty : evidence.vndkProperty = none) :
    resolve device evidence =
      resolveBy device evidence [fromManifests, fromVendorMatrix, fromSepolicy] := by
  have hproperty : fromProperty device evidence = .ok .inconclusive :=
    fromProperty_eq_inconclusive_iff.mpr noProperty
  exact resolveBy_cons_of_inconclusive hproperty _

theorem ReachesMatrix.resolve_eq (reached : ReachesMatrix evidence) :
    resolve device evidence = resolveBy device evidence [fromVendorMatrix, fromSepolicy] := by
  rw [resolve_of_noProperty reached.noProperty]
  refine resolveBy_cons_of_inconclusive (fromManifests_eq_inconclusive_iff.mpr ?_) _
  cases hmanifest : evidence.manifestVersion with
  | none => exact Or.inl rfl
  | some version =>
    -- A version in the manifests would settle the question if Treble were confirmed.
    refine Or.inr ⟨?_, version, rfl, reached.notRecent version hmanifest⟩
    rw [Bool.eq_false_iff]
    intro supported
    simp [reached.supported supported] at hmanifest

theorem ReachesPolicy.reachesMatrix (reached : ReachesPolicy device evidence) :
    ReachesMatrix evidence where
  noProperty := reached.noProperty
  supported _ := reached.noManifest
  notRecent version h := by simp [reached.noManifest] at h

theorem ReachesPolicy.resolve_eq (reached : ReachesPolicy device evidence) :
    resolve device evidence = resolveBy device evidence [fromSepolicy] := by
  rw [reached.reachesMatrix.resolve_eq]
  exact resolveBy_cons_of_inconclusive (fromVendorMatrix_of_none reached.noMatrix) _

/-- Where no source says anything, that is the error. -/
theorem Undetermined.resolve_eq (silent : Undetermined device evidence) :
    resolve device evidence = .error (noVersion evidence) := by
  -- The induction is on the sources that are still to be asked.
  have hall : ∀ list : List Source, (∀ source ∈ list, source device evidence = .ok .inconclusive) →
      resolveBy device evidence list = .error (noVersion evidence) := by
    intro list
    induction list with
    | nil =>
      intro _
      rfl
    | cons source rest ih =>
      intro h
      have hsource := h source (List.mem_cons_self ..)
      rw [resolveBy_cons_of_inconclusive hsource]
      exact ih fun other hother => h other (List.mem_cons_of_mem _ hother)
  exact hall sources silent

/-- A way through the sources gives what `resolve` gives. -/
theorem Resolved.resolve_eq {result : Except Error (Option Version)}
    (h : Resolved device evidence result) : resolve device evidence = result := by
  cases h with
  | byProperty present =>
    exact resolveBy_cons_of_confirmed (by simp [fromProperty, present, Resolution.ofVersion?]) _
  | byManifests noProperty supported present =>
    rw [resolve_of_noProperty noProperty]
    exact resolveBy_cons_of_confirmed (by simp [fromManifests, present, supported]) _
  | denied noProperty unsupported present recent =>
    rw [resolve_of_noProperty noProperty]
    exact resolveBy_cons_of_denied (by simp [fromManifests, present, unsupported, recent]) _
  | matrixFails reached fails =>
    rw [reached.resolve_eq]
    exact resolveBy_cons_of_error (fromVendorMatrix_of_error fails) _
  | byMatrix reached supported present =>
    obtain ⟨path, _, hweigh⟩ := fromVendorMatrix_of_some present
    rw [reached.resolve_eq]
    exact resolveBy_cons_of_confirmed (by simp [hweigh, weighMatrix, supported]) _
  | byAgreement reached unsupported manifest matrix =>
    obtain ⟨path, _, hweigh⟩ := fromVendorMatrix_of_some matrix
    rw [reached.resolve_eq]
    exact resolveBy_cons_of_confirmed (by simp [hweigh, weighMatrix, unsupported, manifest]) _
  | conflict reached unsupported manifest matrix differ found =>
    obtain ⟨path, hpath, hweigh⟩ := fromVendorMatrix_of_some matrix
    obtain rfl := Option.some.inj (hpath.symm.trans found)
    rw [reached.resolve_eq]
    exact resolveBy_cons_of_error (by simp [hweigh, weighMatrix, unsupported, manifest, differ]) _
  | policyFails reached fails =>
    rw [reached.resolve_eq]
    exact resolveBy_cons_of_error (by simp [fromSepolicy, reached.supported, fails]) _
  | byPolicy reached present =>
    rw [reached.resolve_eq]
    exact resolveBy_cons_of_confirmed
      (by simp [fromSepolicy, reached.supported, present, Resolution.ofVersion?]) _
  | undetermined silent => exact silent.resolve_eq

/-- From the policy on there is always a way. -/
theorem ReachesPolicy.exists_resolved (reached : ReachesPolicy device evidence) :
    ∃ result, Resolved device evidence result := by
  rcases hpolicy : device.sepolicyVersion with error | _ | version
  · exact ⟨_, .policyFails reached hpolicy⟩
  · exact ⟨_, .undetermined (undetermined_iff.mpr ⟨reached.noProperty,
      Or.inl ⟨reached.supported, reached.noManifest, reached.noMatrix, hpolicy⟩⟩)⟩
  · exact ⟨_, .byPolicy reached hpolicy⟩

/-- From the matrix on there is always a way. -/
theorem ReachesMatrix.exists_resolved (reached : ReachesMatrix evidence) :
    ∃ result, Resolved device evidence result := by
  rcases hmatrix : device.matrixVersion with error | _ | version
  · exact ⟨_, .matrixFails reached hmatrix⟩
  -- Without a version in the matrix only a confirmation leads on to the policy.
  · cases hsupport : evidence.supportsTreble with
    | true =>
      exact ReachesPolicy.exists_resolved
        ⟨reached.noProperty, hsupport, reached.supported hsupport, hmatrix⟩
    | false =>
      refine ⟨_, .undetermined (undetermined_iff.mpr ⟨reached.noProperty, Or.inr ⟨hsupport, ?_⟩⟩)⟩
      cases hmanifest : evidence.manifestVersion with
      | none => exact Or.inl ⟨rfl, none, hmatrix⟩
      | some manifest =>
        exact Or.inr ⟨manifest, rfl, reached.notRecent manifest hmanifest, hmatrix⟩
  · cases hsupport : evidence.supportsTreble with
    | true => exact ⟨_, .byMatrix reached hsupport hmatrix⟩
    | false =>
      cases hmanifest : evidence.manifestVersion with
      | none =>
        exact ⟨_, .undetermined (undetermined_iff.mpr ⟨reached.noProperty,
          Or.inr ⟨hsupport, Or.inl ⟨hmanifest, some version, hmatrix⟩⟩⟩)⟩
      | some manifest =>
        by_cases heq : manifest = version
        · subst heq
          exact ⟨_, .byAgreement reached hsupport hmanifest hmatrix⟩
        -- The error tells where the matrix stands.
        · obtain ⟨path, hpath, _⟩ := fromVendorMatrix_of_some hmatrix
          exact ⟨_, .conflict reached hsupport hmanifest hmatrix heq hpath⟩

/-- There is always a way through the sources. -/
theorem exists_resolved (device : DeviceRoot) (evidence : Evidence) :
    ∃ result, Resolved device evidence result := by
  cases hproperty : evidence.vndkProperty with
  | some version => exact ⟨_, .byProperty hproperty⟩
  | none =>
    cases hmanifest : evidence.manifestVersion with
    | none =>
      refine ReachesMatrix.exists_resolved ⟨hproperty, fun _ => hmanifest, ?_⟩
      simp [hmanifest]
    | some version =>
      cases hsupport : evidence.supportsTreble with
      | true => exact ⟨_, .byManifests hproperty hsupport hmanifest⟩
      | false =>
        by_cases recent : firstTrebleOnly ≤ version
        · exact ⟨_, .denied hproperty hsupport hmanifest recent⟩
        · refine ReachesMatrix.exists_resolved ⟨hproperty, by simp [hsupport], ?_⟩
          intro other hother
          obtain rfl := Option.some.inj (hmanifest.symm.trans hother)
          exact Version.not_le.mp recent

/-- The ways through the sources are those of `resolve`. -/
theorem resolved_iff {result : Except Error (Option Version)} :
    Resolved device evidence result ↔ resolve device evidence = result := by
  constructor
  · exact Resolved.resolve_eq
  · rintro rfl
    obtain ⟨result, way⟩ := exists_resolved device evidence
    rwa [way.resolve_eq]

end Detection

end Treble
