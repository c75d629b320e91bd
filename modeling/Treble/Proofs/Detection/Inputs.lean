import Treble.Proofs.Detection.Confirmation
import Treble.Proofs.Vintf.Agreement
import Treble.Proofs.Vintf.Location

/-!
# The inputs of detection

A verdict hangs on five things that the properties say and on the files that are looked up. Two
devices that agree on these have the same verdict, or fail with the same words, and the engine is
asked the same of both.

## Main definitions

* `Detection.Device.SameInputs` — two devices agree on all that detection reads
* `Detection.Device.withFiles`, `Detection.Device.withEntry` — a device with other files, or something
  else at one place

## Main results

* `Detection.Device.SameInputs.detect_eq` — the same inputs have the same result
* `Detection.Device.detect_sameInputs` — so that neither the other files and properties matter, nor
  manifests without a variant where there is one
-/

namespace Treble.Detection

open Vintf (DeviceRoot ManifestFacts Apart)

/-! ### Sources of the version -/

theorem resolveBy_congr {device other : DeviceRoot} {evidence : Evidence} {list : List Source}
    (h : ∀ source ∈ list, source other evidence = source device evidence) :
    resolveBy other evidence list = resolveBy device evidence list := by
  induction list with
  | nil => rfl
  | cons source rest ih =>
    have hrest := ih fun other hother => h other (List.mem_cons_of_mem _ hother)
    simp only [resolveBy, h source (List.mem_cons_self ..), hrest]

/-- The version only hangs on the vendor's matrix and the policy. -/
theorem resolve_congr {device other : DeviceRoot} (matrix : other.vendorMatrix? = device.vendorMatrix?)
    (facts : ∀ path, device.vendorMatrix? = some path →
      Vintf.MatrixFacts.ofFile other.files path = Vintf.MatrixFacts.ofFile device.files path)
    (policy : other.sepolicyVersion = device.sepolicyVersion) (evidence : Evidence) :
    resolve other evidence = resolve device evidence := by
  apply resolveBy_congr
  intro source hsource
  simp only [sources, List.mem_cons, List.not_mem_nil, or_false] at hsource
  rcases hsource with rfl | rfl | rfl | rfl
  · rfl
  · rfl
  · unfold fromVendorMatrix
    rw [matrix]
    cases hpath : device.vendorMatrix? with
    | none => rfl
    | some path => simp only [facts path hpath]
  · simp only [fromSepolicy, policy]

/-- A file system that agrees with that of a device tells the same version. -/
theorem resolve_withFiles {device : DeviceRoot} {files : FileSystem}
    {vendorSku hardwareSku : Option String} (agree : device.AgreeOn files vendorSku hardwareSku)
    (evidence : Evidence) : resolve (device.withFiles files) evidence = resolve device evidence :=
  resolve_congr agree.vendorMatrix (fun _ hpath => agree.ofFile_matrix hpath) agree.sepolicyVersion
    evidence

namespace Device

/-- The verdict hangs on what the properties claim, what the manifests say and which of them are there,
the arguments of the engine and the version that is resolved. -/
theorem detectBy_congr {σ : Type} {device other : Device} (claims : other.claims = device.claims)
    (summary : other.manifestSummary = device.manifestSummary)
    (legacy : other.manifests.legacy = device.manifests.legacy)
    (check : ∀ summary, other.matrixCheck summary = device.matrixCheck summary)
    (version : ∀ evidence, resolve other.root evidence = resolve device.root evidence)
    (ask : MatrixCheck → Engine σ → Version → σ → Except Engine.Error MatrixVerdict × σ)
    (engine : Engine σ) (state : σ) :
    other.detectBy ask engine state = device.detectBy ask engine state := by
  have hverdict : ∀ claims summary matched upgrade,
      other.verdictOf claims summary matched upgrade =
        device.verdictOf claims summary matched upgrade := by
    intro claims summary matched upgrade
    rw [verdictOf, verdictOf, version, legacy]
  have hconclude : ∀ claims summary answer,
      other.conclude claims summary answer = device.conclude claims summary answer := by
    intro claims summary answer
    simp only [conclude, judge, hverdict]
  simp only [detectBy, claims, summary, check, hconclude]

/-! ### Two devices with the same inputs -/

/-- Two devices agree on all that detection reads of properties and files. -/
structure SameInputs (device other : Device) : Prop where
  path : other.root.path = device.root.path
  files : device.root.AgreeOn other.root.files device.vendorSku device.hardwareSku
  /-- A variant that is not named is the same as an empty one. -/
  vendorSku : other.vendorSku.getD "" = device.vendorSku.getD ""
  hardwareSku : other.hardwareSku.getD "" = device.hardwareSku.getD ""
  /-- Of this property it matters whether it is set and whether it is true, and no more. -/
  liteSet : other.properties Property.vndkLite = none ↔ device.properties Property.vndkLite = none
  lite : other.properties.isTrue Property.vndkLite = device.properties.isTrue Property.vndkLite
  vndkProperty : other.vndkProperty = device.vndkProperty
  enabled : other.properties.isTrue Property.trebleEnabled =
    device.properties.isTrue Property.trebleEnabled

namespace SameInputs

variable {σ : Type} {device other : Device} (same : device.SameInputs other)

include same

theorem root : other.root = device.root.withFiles other.root.files := by
  rw [DeviceRoot.withFiles, ← same.path]

theorem claims : other.claims = device.claims := by
  by_cases unset : device.properties Property.vndkLite = none
  · simp only [Device.claims, unset, same.liteSet.mpr unset]
  · rw [claims_eq_ok unset, claims_eq_ok (mt same.liteSet.mp unset)]
    simp only [claimed, same.vndkProperty, same.enabled, same.lite]

theorem manifests : other.manifests = device.manifests := by
  rw [Device.manifests, DeviceRoot.manifests_congr _ same.vendorSku same.hardwareSku, same.root,
    same.files.manifests]
  rfl

theorem manifestSummary : other.manifestSummary = device.manifestSummary := by
  have hfacts : other.manifests.files.mapM (ManifestFacts.ofFile other.root.files) =
      device.manifests.files.mapM (ManifestFacts.ofFile device.root.files) := by
    rw [same.manifests]
    exact mapM_congr fun path hpath => same.files.ofFile hpath
  rw [Device.manifestSummary, Device.manifestSummary, ManifestSummary.ofFiles,
    ManifestSummary.ofFiles, hfacts]

theorem matrixCheck (summary : ManifestSummary) :
    other.matrixCheck summary = device.matrixCheck summary := by
  simp only [Device.matrixCheck, same.path, same.vendorSku, same.hardwareSku]

theorem detectBy_eq
    (ask : MatrixCheck → Engine σ → Version → σ → Except Engine.Error MatrixVerdict × σ)
    (engine : Engine σ) (state : σ) :
    other.detectBy ask engine state = device.detectBy ask engine state := by
  refine detectBy_congr same.claims same.manifestSummary ?_ same.matrixCheck ?_ ask engine state
  · rw [same.manifests]
  · intro evidence
    rw [same.root, resolve_withFiles same.files]

/-- The same inputs have the same result, and the engine is asked the same. -/
theorem detect_eq (engine : Engine σ) (state : σ) :
    other.detect engine state = device.detect engine state :=
  same.detectBy_eq MatrixCheck.run engine state

end SameInputs

/-! ### Other files -/

/-- The device with other files. -/
def withFiles (device : Device) (files : FileSystem) : Device :=
  { device with root := device.root.withFiles files }

theorem sameInputs_withFiles {device : Device} {files : FileSystem}
    (agree : device.root.AgreeOn files device.vendorSku device.hardwareSku) :
    device.SameInputs (device.withFiles files) :=
  ⟨rfl, agree, rfl, rfl, Iff.rfl, rfl, rfl, rfl⟩

/-- The device with something else at a place. -/
def withEntry (device : Device) (place : String)
    (entry : Except FileSystem.Cause FileSystem.Entry) : Device :=
  device.withFiles (Function.update device.root.files (device.root.locate place) entry)

theorem files_withEntry_of_ne {device : Device} {place path : String}
    {entry : Except FileSystem.Cause FileSystem.Entry} (h : path ≠ device.root.locate place) :
    (device.withEntry place entry).root.files path = device.root.files path :=
  Function.update_of_ne h _ _

/-- What stands at a place that no input stands at is not read. -/
theorem sameInputs_withEntry {device : Device} {place : String}
    (documents : ∀ start ∈ DeviceRoot.documentStarts (DeviceRoot.isVariant device.vendorSku)
      (DeviceRoot.isVariant device.hardwareSku), Apart start place)
    (directories : place ∉
      [DeviceRoot.vendorFragmentPlace, DeviceRoot.odmFragmentPlace, "vendor/etc/selinux"])
    (policy : Apart "vendor/etc/selinux/" place)
    (entry : Except FileSystem.Cause FileSystem.Entry) :
    device.SameInputs (device.withEntry place entry) := by
  have apart : ∀ start rest, Apart start place →
      device.root.locate (start ++ rest) ≠ device.root.locate place := by
    intro start rest h
    have hne : device.root.locate (start ++ rest) ≠ device.root.locate (place ++ "") :=
      DeviceRoot.locate_ne h rest ""
    rwa [String.append_empty] at hne
  apply sameInputs_withFiles
  apply DeviceRoot.AgreeOn.of_documents
  · intro path document
    obtain ⟨start, hstart, rest, rfl⟩ := document.exists_start
    have hne := apart start rest (documents start hstart)
    exact ⟨.of_eq (files_withEntry_of_ne hne), .of_eq (files_withEntry_of_ne hne)⟩
  · intro directory hdirectory
    apply FileSystem.names_of_eq
    apply files_withEntry_of_ne
    exact mt DeviceRoot.locate_inj.mp (ne_of_mem_of_not_mem hdirectory directories)
  · intro name
    apply files_withEntry_of_ne
    rw [DeviceRoot.join_policyDirectory]
    exact apart _ name policy

/-- A device with the same inputs has the same result. In particular, where the vendor's variant is
named, the vendor manifest without one does not matter, and where the variant of the product is, both
ODM manifests without one do not. -/
theorem detect_sameInputs {σ : Type} (device : Device) (engine : Engine σ) (state : σ) :
    (∀ other : Device, device.SameInputs other →
      other.detect engine state = device.detect engine state) ∧
    (device.vendorSku.getD "" ≠ "" → ∀ entry,
      (device.withEntry (DeviceRoot.vendorPlace none) entry).detect engine state =
        device.detect engine state) ∧
    (device.hardwareSku.getD "" ≠ "" →
      ∀ place ∈ [DeviceRoot.odmPlace none, DeviceRoot.odmFallbackPlace none], ∀ entry,
        (device.withEntry place entry).detect engine state = device.detect engine state) := by
  refine ⟨fun other same => same.detect_eq engine state, ?_, ?_⟩
  · intro named entry
    have variant : DeviceRoot.isVariant device.vendorSku = true := by
      simpa [DeviceRoot.isVariant] using named
    have apart : ∀ odm, ∀ start ∈ DeviceRoot.documentStarts true odm,
        Apart start (DeviceRoot.vendorPlace none) := by decide
    refine (sameInputs_withEntry ?_ (by decide) (by decide) entry).detect_eq engine state
    rw [variant]
    exact apart _
  · intro named place hplace entry
    have variant : DeviceRoot.isVariant device.hardwareSku = true := by
      simpa [DeviceRoot.isVariant] using named
    have apart : ∀ place ∈ [DeviceRoot.odmPlace none, DeviceRoot.odmFallbackPlace none],
        (∀ vendor, ∀ start ∈ DeviceRoot.documentStarts vendor true, Apart start place) ∧
          place ∉ [DeviceRoot.vendorFragmentPlace, DeviceRoot.odmFragmentPlace,
            "vendor/etc/selinux"] ∧ Apart "vendor/etc/selinux/" place := by decide
    obtain ⟨documents, directories, policy⟩ := apart place hplace
    refine (sameInputs_withEntry ?_ directories policy entry).detect_eq engine state
    rw [variant]
    exact documents _

/-- On the old vendor other properties do not matter, and with a variant neither does the manifest
without one. -/
theorem detect_sameInputs_oldVendor :
    (oldVendor.withProperty "ro.product.name" "a").detect Engine.absent () =
      oldVendor.detect Engine.absent () ∧
    ∀ entry, ((oldVendor.withProperty Property.vendorSku "a").withEntry
        (DeviceRoot.vendorPlace none) entry).detect Engine.absent () =
      (oldVendor.withProperty Property.vendorSku "a").detect Engine.absent () := by
  constructor
  · have files : oldVendor.root.AgreeOn oldVendor.root.files oldVendor.vendorSku
        oldVendor.hardwareSku :=
      .of_documents (fun _ _ => ⟨.of_eq rfl, .of_eq rfl⟩) (fun _ _ => rfl) (fun _ => rfl)
    have same : oldVendor.SameInputs (oldVendor.withProperty "ro.product.name" "a") :=
      ⟨rfl, files, by decide, by decide, by decide, by decide, by decide, by decide⟩
    exact (detect_sameInputs oldVendor Engine.absent ()).1 _ same
  · have named : (oldVendor.withProperty Property.vendorSku "a").vendorSku.getD "" ≠ "" := by
      decide
    exact (detect_sameInputs _ Engine.absent ()).2.1 named

end Device

end Treble.Detection
