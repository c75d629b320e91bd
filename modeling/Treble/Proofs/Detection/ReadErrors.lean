import Treble.Proofs.Detection.Provenance
import Treble.Proofs.Vintf.Unreadable

/-!
# When detection fails on reading a file

There are three stages at which a file can be read in vain: the manifests, the matrix of the vendor
and the policy. Which of them a detection comes to hangs on all that was found before.

## Main definitions

* `Detection.Device.AsksSources` — detection comes to ask the sources of the version
* `Detection.ReadFault` — the paths at which reading fails

## Main results

* `Detection.Device.exists_read_error_iff` — when reading fails, and at which path
* `Detection.ReadFault.not_mayBeClosed` — what is passed over where it does not open is never at fault
* `Detection.Device.detect_read_error_iff` — both, and what stands where a manifest cannot be read
-/

namespace Treble.Detection

open Vintf (DeviceRoot ManifestFacts)

variable {σ : Type}

/-- Detection comes to ask the sources of the version: the manifests scan, the framework matrices do
not stand against the device, and neither do its HALs. -/
structure Device.AsksSources (device : Device) (engine : Engine σ) (state : σ) : Prop where
  readable : device.Readable
  passes : device.PassesMatrices engine state
  compliant : compliance device.merged.passthroughHals ≠ .none

/-- The paths at which reading fails, given that it is said whether the VNDK is the reduced one. -/
inductive ReadFault (device : Device) (engine : Engine σ) (state : σ) : String → Prop
  /-- The first manifest that gives no facts cannot be read. -/
  | manifest {before after : List String} {path : String}
      (split : device.manifests.files = before ++ path :: after)
      (scanned : ∀ other ∈ before,
        ∃ facts, ManifestFacts.ofFile device.root.files other = .ok facts)
      (unread : ∃ cause, device.root.files.read path = .error cause) :
      ReadFault device engine state path
  /-- The sources are asked down to the matrix, and a directory stands in its place. -/
  | matrix (asks : device.AsksSources engine state)
      (reached : ReachesMatrix (device.finalEvidence engine state))
      (directory : device.root.files.IsOpenDirectory (device.root.locate DeviceRoot.matrixPlace)) :
      ReadFault device engine state (device.root.locate DeviceRoot.matrixPlace)
  /-- The sources are asked down to the policy, which they only are with a confirmation of Treble, and
  what stands in the place of the version file is no file or does not open. -/
  | policy (asks : device.AsksSources engine state)
      (reached : ReachesPolicy device.root (device.finalEvidence engine state))
      (leads : device.root.files.leadsTo device.root.versionFile = true)
      (unread : device.root.files.isFile device.root.versionFile = false ∨
        device.root.files.opens device.root.versionFile = false) :
      ReadFault device engine state device.root.versionFile

variable {device : Device} {engine : Engine σ} {state : σ} {path reason : String}
  {hint : Option String}

/-- A source that fails on reading a file is the matrix or the policy. -/
theorem Resolved.readFault {error : Error} (asks : device.AsksSources engine state)
    (way : Resolved device.root (device.finalEvidence engine state) (.error error))
    (h : error = .vintf (.read path reason hint)) : ReadFault device engine state path := by
  cases way with
  | matrixFails reached fails =>
    cases h
    obtain ⟨rfl, directory⟩ := DeviceRoot.exists_matrixVersion_read_error_iff.mp ⟨_, _, fails⟩
    exact .matrix asks reached directory
  | policyFails reached fails =>
    cases h
    obtain ⟨rfl, leads, unread⟩ := DeviceRoot.exists_sepolicyVersion_read_error_iff.mp ⟨_, _, fails⟩
    exact .policy asks reached leads unread
  | undetermined => cases h
  | conflict => cases h

theorem Detected.readFault {error : Error} (way : Detected device engine state (.error error))
    (h : error = .vintf (.read path reason hint)) :
    device.properties Property.vndkLite ≠ none ∧ ReadFault device engine state path := by
  cases way with
  | liteUnset => cases h
  | manifestFails liteSet fails =>
    cases h
    have noScan : ¬ device.ManifestsScan := by
      intro scan
      rw [Device.manifestSummary_eq_ok scan] at fails
      cases fails
    obtain ⟨before, found, after, error, split, scanned, hfound, herror⟩ :=
      Device.exists_manifestSummary_eq_error noScan
    obtain rfl := Except.error.inj (herror.symm.trans fails)
    obtain ⟨rfl, unread⟩ := ManifestFacts.exists_read_error_iff.mp ⟨_, _, hfound⟩
    exact ⟨liteSet, .manifest split scanned unread⟩
  | engineFails => cases h
  | matricesContradict => cases h
  | halsContradict => cases h
  | versionFails readable passes compliant way =>
    exact ⟨readable.liteSet, way.readFault ⟨readable, passes, compliant⟩ h⟩

/-- Where reading fails at a path, detection fails on it. -/
theorem ReadFault.exists_detected (fault : ReadFault device engine state path)
    (liteSet : device.properties Property.vndkLite ≠ none) :
    ∃ reason hint, Detected device engine state (.error (.vintf (.read path reason hint))) := by
  cases fault with
  | manifest split scanned unread =>
    obtain ⟨reason, hint, fails⟩ := ManifestFacts.exists_read_error_iff.mpr ⟨rfl, unread⟩
    have summary := Device.manifestSummary_eq_error split scanned fails
    exact ⟨reason, hint, .manifestFails liteSet summary⟩
  | matrix asks reached directory =>
    obtain ⟨reason, hint, fails⟩ :=
      DeviceRoot.exists_matrixVersion_read_error_iff.mpr ⟨rfl, directory⟩
    exact ⟨reason, hint, .versionFails asks.readable asks.passes asks.compliant
      (.matrixFails reached fails)⟩
  | policy asks reached leads unread =>
    obtain ⟨reason, hint, fails⟩ :=
      DeviceRoot.exists_sepolicyVersion_read_error_iff.mpr ⟨rfl, leads, unread⟩
    exact ⟨reason, hint, .versionFails asks.readable asks.passes asks.compliant
      (.policyFails reached fails)⟩

/-- What may be closed and does not open is never at fault. -/
theorem ReadFault.not_mayBeClosed (fault : ReadFault device engine state path)
    (closed : device.root.MayBeClosed device.vendorSku device.hardwareSku path) :
    device.root.files.opens path = true := by
  cases fault with
  | manifest split =>
    have mem : path ∈ device.manifests.files := by simp [split]
    exact (DeviceRoot.located_of_mem mem).opens_or.resolve_right closed.not_mem_odmFragments
  | matrix _ _ directory => exact (FileSystem.isOpenDirectory_iff.mp directory).2
  | policy => exact absurd rfl closed.ne_versionFile

namespace Device

theorem exists_read_error_iff :
    (∃ reason hint, (device.detect engine state).1 = .error (.vintf (.read path reason hint))) ↔
      device.properties Property.vndkLite ≠ none ∧ ReadFault device engine state path := by
  simp only [← detected_iff]
  constructor
  · rintro ⟨reason, hint, way⟩
    exact way.readFault rfl
  · rintro ⟨liteSet, fault⟩
    exact fault.exists_detected liteSet

/-- Detection fails on reading a file iff it is said whether the VNDK is the reduced one, and the file
is the first manifest that gives no facts and cannot be read, or a directory in the place of the matrix
that is come to, or something in the place of the version file that is come to and cannot be read. A
manifest that cannot be read is an ODM fragment that does not open, or a directory. Of all other files
none that does not open ever fails a detection. -/
theorem detect_read_error_iff (device : Device) (engine : Engine σ) (state : σ) :
    (∀ path, (∃ reason hint,
        (device.detect engine state).1 = .error (.vintf (.read path reason hint))) ↔
      device.properties Property.vndkLite ≠ none ∧ ReadFault device engine state path) ∧
    (∀ path ∈ device.manifests.files, (∃ cause, device.root.files.read path = .error cause) →
      path ∈ device.root.odmFragments ∧ device.root.files.IsLockedFile path ∨
        (∃ place ∈ DeviceRoot.manifestPlaces device.vendorSku device.hardwareSku,
          path = device.root.locate place) ∧ device.root.files.IsOpenDirectory path) ∧
    (∀ path, device.root.MayBeClosed device.vendorSku device.hardwareSku path →
      device.root.files.opens path = false →
      ∀ reason hint, (device.detect engine state).1 ≠ .error (.vintf (.read path reason hint))) := by
  refine ⟨fun path => exists_read_error_iff, ?_, ?_⟩
  · intro path mem unread
    exact (DeviceRoot.located_of_mem mem).of_unread unread
  · intro path closed shut reason hint fails
    obtain ⟨_, fault⟩ := exists_read_error_iff.mp ⟨reason, hint, fails⟩
    rw [fault.not_mayBeClosed closed] at shut
    cases shut

/-- A device with a directory in the place of the vendor manifest, and a matrix that does not open. -/
def directoryVendor : Device :=
  { properties := fun name => if name = Property.vndkLite then some "" else none
    root :=
      { path := "/"
        files := fun path =>
          if path = "/vendor/etc/vintf/manifest.xml" then .ok (.directory (.ok ∅))
          else if path = "/vendor/etc/vintf/compatibility_matrix.xml" then
            .ok (.file (.error .permissionDenied))
          else .error .notFound } }

/-- The directory fails the detection, and the matrix does not. -/
theorem detect_read_error_directoryVendor :
    (∃ reason hint, (directoryVendor.detect Engine.absent ()).1 =
      .error (.vintf (.read "/vendor/etc/vintf/manifest.xml" reason hint))) ∧
    ∀ reason hint, (directoryVendor.detect Engine.absent ()).1 ≠
      .error (.vintf (.read "/vendor/etc/vintf/compatibility_matrix.xml" reason hint)) := by
  obtain ⟨iff, _, closed⟩ := detect_read_error_iff directoryVendor Engine.absent ()
  constructor
  · have split : directoryVendor.manifests.files =
        [] ++ "/vendor/etc/vintf/manifest.xml" :: [] := by decide
    have fault : ReadFault directoryVendor Engine.absent () "/vendor/etc/vintf/manifest.xml" :=
      .manifest split (by simp) ⟨.isADirectory, rfl⟩
    exact (iff _).mpr ⟨by decide, fault⟩
  · exact closed _ .matrix rfl

end Device

end Treble.Detection
