import Treble.Proofs.Detection.Inputs

/-!
# What a settled version rests on

The sources of the version are asked in turn, and one that settles the question is the last one asked.
So nothing that only a later source would read can change the answer or make it an error: neither the
matrix and the policy where the property or the manifests settle it, nor the policy where the matrix
does or Treble is not confirmed.

## Main definitions

* `Detection.Evidence.Settles` — the property or the manifests settle the question

## Main results

* `Detection.resolveBy_congr_of_settled` — the sources behind one that settles the question do not matter
* `Detection.resolve_of_settled` — what a settled version rests on
-/

namespace Treble.Detection

open Vintf (DeviceRoot)
open FileSystem (AgreeAt)

variable {device other : DeviceRoot} {evidence : Evidence}

/-- The property or the manifests settle the question: there is a version in the property, or one in the
manifests that Treble is confirmed for or that only devices with Treble have. -/
def Evidence.Settles (evidence : Evidence) : Prop :=
  evidence.vndkProperty ≠ none ∨ ∃ version, evidence.manifestVersion = some version ∧
    (evidence.supportsTreble = true ∨ firstTrebleOnly ≤ version)

/-- Two devices on which some sources say the same come to the same, whatever the sources behind them
say, if one of them settles the question. -/
theorem resolveBy_congr_of_settled {front rest : List Source}
    (same : ∀ source ∈ front, source other evidence = source device evidence)
    (settled : ∃ source ∈ front, source device evidence ≠ .ok .inconclusive) :
    resolveBy other evidence (front ++ rest) = resolveBy device evidence (front ++ rest) := by
  -- The induction is on the sources in front: one that leaves the question open passes it on to the
  -- others, among which there is still one that settles it.
  induction front with
  | nil =>
    obtain ⟨_, mem, _⟩ := settled
    cases mem
  | cons source front ih =>
    have hsource := same source (List.mem_cons_self ..)
    rw [List.cons_append, resolveBy, resolveBy, hsource]
    cases hanswer : source device evidence with
    | error error => rfl
    | ok answer =>
      cases answer with
      | confirmed version => rfl
      | denied => rfl
      | inconclusive =>
        refine ih (fun next mem => same next (List.mem_cons_of_mem _ mem)) ?_
        obtain ⟨next, mem, hnext⟩ := settled
        rcases List.mem_cons.mp mem with rfl | mem
        · exact absurd hanswer hnext
        · exact ⟨next, mem, hnext⟩

/-- The evidence settles the question if one of the first two sources does. -/
theorem Evidence.Settles.exists_source (settles : evidence.Settles) (device : DeviceRoot) :
    ∃ source ∈ [fromProperty, fromManifests], source device evidence ≠ .ok .inconclusive := by
  obtain property | ⟨version, manifest, decisive⟩ := settles
  · exact ⟨fromProperty, by simp, mt fromProperty_eq_inconclusive_iff.mp property⟩
  · refine ⟨fromManifests, by simp, fun silent => ?_⟩
    obtain absent | ⟨unsupported, old, present, notRecent⟩ :=
      fromManifests_eq_inconclusive_iff.mp silent
    · exact Option.some_ne_none version (manifest.symm.trans absent)
    · obtain rfl := Option.some.inj (manifest.symm.trans present)
      obtain supported | recent := decisive
      · exact Bool.false_ne_true (unsupported.symm.trans supported)
      · exact Version.not_le.mpr notRecent recent

/-- What the matrix says hangs on what stands at its place. -/
theorem fromVendorMatrix_withFiles {files : FileSystem}
    (agree : AgreeAt Vintf.decode device.files files (device.locate DeviceRoot.matrixPlace)) :
    fromVendorMatrix (device.withFiles files) evidence = fromVendorMatrix device evidence := by
  unfold fromVendorMatrix
  rw [DeviceRoot.vendorMatrix_withFiles agree]
  cases hpath : device.vendorMatrix? with
  | none => rfl
  | some path =>
    have hfacts := DeviceRoot.ofFile_matrix_withFiles agree hpath
    simp only [DeviceRoot.withFiles, hfacts]

/-- Where Treble is not confirmed, the policy is not looked at. -/
theorem fromSepolicy_of_unsupported (unsupported : evidence.supportsTreble = false)
    (device : DeviceRoot) : fromSepolicy device evidence = .ok .inconclusive :=
  fromSepolicy_eq_inconclusive_iff.mpr (.inl unsupported)

/-- Where the property or the manifests settle the question, the files of the device do not matter. -/
theorem Evidence.Settles.resolve_eq (settles : evidence.Settles) (device other : DeviceRoot) :
    resolve other evidence = resolve device evidence := by
  have same : ∀ source ∈ [fromProperty, fromManifests],
      source other evidence = source device evidence := by
    intro source hsource
    simp only [List.mem_cons, List.not_mem_nil, or_false] at hsource
    rcases hsource with rfl | rfl <;> rfl
  have hsources : sources = [fromProperty, fromManifests] ++ [fromVendorMatrix, fromSepolicy] := rfl
  rw [resolve, resolve, hsources]
  exact resolveBy_congr_of_settled same (settles.exists_source device)

/-- Where the matrix settles the question or Treble is not confirmed, the policy does not matter. -/
theorem resolve_withFiles_of_matrix {files : FileSystem}
    (agree : AgreeAt Vintf.decode device.files files (device.locate DeviceRoot.matrixPlace))
    (h : evidence.supportsTreble = false ∨ device.matrixVersion ≠ .ok none) :
    resolve (device.withFiles files) evidence = resolve device evidence := by
  have same : ∀ source ∈ [fromProperty, fromManifests, fromVendorMatrix],
      source (device.withFiles files) evidence = source device evidence := by
    intro source hsource
    simp only [List.mem_cons, List.not_mem_nil, or_false] at hsource
    rcases hsource with rfl | rfl | rfl
    · rfl
    · rfl
    · exact fromVendorMatrix_withFiles agree
  have hsources : sources = [fromProperty, fromManifests, fromVendorMatrix] ++ [fromSepolicy] := rfl
  rw [resolve, resolve, hsources]
  by_cases unsupported : evidence.supportsTreble = false
  · -- Nothing needs to settle the question: the policy says the same, namely nothing.
    refine resolveBy_congr fun source hsource => ?_
    obtain mem | last := List.mem_append.mp hsource
    · exact same source mem
    · obtain rfl := List.mem_singleton.mp last
      rw [fromSepolicy_of_unsupported unsupported, fromSepolicy_of_unsupported unsupported]
  · have settled : fromVendorMatrix device evidence ≠ .ok .inconclusive := by
      rw [Ne, fromVendorMatrix_eq_inconclusive_iff]
      rintro (absent | ⟨unsupported', _⟩)
      · exact h.resolve_left unsupported absent
      · exact unsupported unsupported'
    exact resolveBy_congr_of_settled same ⟨fromVendorMatrix, by simp, settled⟩

/-- Where the property or the manifests settle the question, the answer is the same on all devices,
whatever stands in their files. On devices with the same matrix it is the same if Treble is not
confirmed, or if the matrix names a version or is at fault: then the policy does not matter. -/
theorem resolve_of_settled (evidence : Evidence) :
    (evidence.Settles → ∀ device other : DeviceRoot,
      resolve other evidence = resolve device evidence) ∧
    ∀ (device : DeviceRoot) (files : FileSystem),
      AgreeAt Vintf.decode device.files files (device.locate DeviceRoot.matrixPlace) →
      evidence.supportsTreble = false ∨ device.matrixVersion ≠ .ok none →
        resolve (device.withFiles files) evidence = resolve device evidence :=
  ⟨fun settles device other => settles.resolve_eq device other,
    fun _ _ agree h => resolve_withFiles_of_matrix agree h⟩

/-- The old vendor with a directory in the place of its matrix. -/
def brokenMatrix : DeviceRoot :=
  (Device.oldVendor.withEntry DeviceRoot.matrixPlace (.ok (.directory (.ok ∅)))).root

/-- The files of the old vendor with a version file that cannot be read. -/
def brokenPolicy : FileSystem :=
  Function.update Device.oldVendor.root.files "/vendor/etc/selinux/plat_sepolicy_vers.txt"
    (.ok (.file (.error .permissionDenied)))

/-- With a version in the manifests the matrix may be broken, and with one in the matrix the policy may
be. -/
theorem resolve_of_settled_oldVendor :
    Evidence.Settles ⟨false, none, some ⟨28, 0⟩⟩ ∧
    resolve brokenMatrix ⟨false, none, some ⟨28, 0⟩⟩ =
      resolve Device.oldVendor.root ⟨false, none, some ⟨28, 0⟩⟩ ∧
    Device.oldVendor.root.matrixVersion ≠ .ok none ∧
    resolve (Device.oldVendor.root.withFiles brokenPolicy) ⟨true, none, none⟩ =
      resolve Device.oldVendor.root ⟨true, none, none⟩ := by
  have settles : Evidence.Settles ⟨false, none, some ⟨28, 0⟩⟩ :=
    .inr ⟨⟨28, 0⟩, rfl, .inr (by decide)⟩
  have matrix : Device.oldVendor.root.matrixVersion ≠ .ok none := by
    have present : Device.oldVendor.root.matrixVersion = .ok (some ⟨27, 0⟩) :=
      eq_ok_of_toOption (by decide +kernel)
    simp [present]
  have agree : AgreeAt Vintf.decode Device.oldVendor.root.files brokenPolicy
      (Device.oldVendor.root.locate DeviceRoot.matrixPlace) :=
    .of_eq (Function.update_of_ne (by decide) _ _)
  exact ⟨settles, (resolve_of_settled _).1 settles Device.oldVendor.root brokenMatrix, matrix,
    (resolve_of_settled _).2 Device.oldVendor.root brokenPolicy agree (.inr matrix)⟩

end Treble.Detection
