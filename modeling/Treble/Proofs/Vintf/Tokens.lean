import Treble.Proofs.Version.Best
import Treble.Proofs.Vintf.Outcomes

/-!
# Version tokens in VINTF files

The version that a manifest, a matrix or a version file gives is spelled by a token in it. What is
gathered from the policy files has no token of this kind, and it is never zero.

## Main definitions

* `Vintf.ManifestFacts.tokens`, `Vintf.MatrixFacts.tokens` — the texts of the version elements in a
  document
* `Vintf.tokensAt` — the tokens in the document at a path
* `Vintf.DeviceRoot.declaredTokens` — the token in the version file

## Main results

* `Vintf.ManifestFacts.exists_token`, `Vintf.MatrixFacts.exists_token`,
  `Vintf.DeviceRoot.exists_token_of_sepolicyVersion` — the version of a file is spelled in it
* `Vintf.DeviceRoot.zero_lt_of_scannedVersion` — what is gathered from the policy files is not zero
-/

namespace Treble.Vintf

/-- The texts of the version elements in a manifest. -/
def ManifestFacts.tokens (document : String) : List String :=
  match (Xml.read document).events.foldlM ManifestScan.step {} with
  | .ok scan => scan.versions
  | .error _ => []

/-- The texts of the version elements in a matrix. -/
def MatrixFacts.tokens (document : String) : List String :=
  ((Xml.read document).events.foldl MatrixScan.step {}).versions

/-- The tokens in the document at a path, if it can be read. -/
def tokensAt (files : FileSystem) (tokensOf : String → List String) (path : String) :
    List String :=
  match files.read path with
  | .ok bytes => tokensOf (decode bytes)
  | .error _ => []

theorem ManifestFacts.sepolicyVersion_of_ofReading {document : String} {facts : ManifestFacts}
    (h : ofReading (Xml.read document) = .ok facts) :
    facts.sepolicyVersion = Version.best (tokens document) := by
  obtain ⟨-, scan, hscan, rfl⟩ := ofReading_eq_ok_iff.mp h
  rw [tokens, hscan]
  rfl

theorem MatrixFacts.vendorNdkVersion_of_ofReading {document : String} {facts : MatrixFacts}
    (h : ofReading (Xml.read document) = .ok facts) :
    facts.vendorNdkVersion = Version.best (tokens document) := by
  obtain ⟨-, rfl⟩ := ofReading_eq_ok_iff.mp h
  rfl

/-- The policy version of a manifest is spelled in it. -/
theorem ManifestFacts.exists_token {files : FileSystem} {path : String} {facts : ManifestFacts}
    {version : Version} (h : ofFile files path = .ok facts)
    (present : facts.sepolicyVersion = some version) :
    ∃ token ∈ tokensAt files tokens path, Version.parse token = some version := by
  obtain ⟨bytes, hbytes, hfacts⟩ := ofFile_eq_ok_iff.mp h
  rw [sepolicyVersion_of_ofReading hfacts] at present
  rw [tokensAt, hbytes]
  exact (Version.best_eq_some_iff.mp present).1

/-- The version of a matrix is spelled in it. -/
theorem MatrixFacts.exists_token {files : FileSystem} {path : String} {facts : MatrixFacts}
    {version : Version} (h : ofFile files path = .ok facts)
    (present : facts.vendorNdkVersion = some version) :
    ∃ token ∈ tokensAt files tokens path, Version.parse token = some version := by
  obtain ⟨bytes, hbytes, hfacts⟩ := ofFile_eq_ok_iff.mp h
  rw [vendorNdkVersion_of_ofReading hfacts] at present
  rw [tokensAt, hbytes]
  exact (Version.best_eq_some_iff.mp present).1

namespace DeviceRoot

variable {device : DeviceRoot}

/-- The first line of the version file, if it can be read. -/
def declaredTokens (device : DeviceRoot) : List String :=
  match device.files.read device.versionFile with
  | .ok bytes => [String.ofList (Text.Utf8.lossy (bytes.takeWhile (· != 0x0A)))]
  | .error _ => []

/-- What is gathered from the policy files is never zero. -/
theorem zero_lt_of_scannedVersion {version : Version}
    (h : device.scannedVersion = some version) : ⟨0, 0⟩ < version := by
  rw [scannedVersion, Option.filter_eq_some_iff] at h
  exact of_decide_eq_true h.2

/-- The version of the policy is declared in the version file or gathered from the policy files. -/
theorem exists_token_of_sepolicyVersion {version : Version}
    (h : device.sepolicyVersion = .ok (some version)) :
    (∃ token ∈ device.declaredTokens, Version.parse token = some version) ∨
      device.scannedVersion = some version := by
  unfold sepolicyVersion at h
  split at h
  · left
    cases hbytes : device.files.read device.versionFile with
    | error cause =>
      rw [hbytes] at h
      cases h
    | ok bytes =>
      rw [hbytes] at h
      rw [declaredTokens, hbytes]
      exact ⟨_, List.mem_singleton_self _, Except.ok.inj h⟩
  · exact Or.inr (Except.ok.inj h)

/-- The version in the matrix of the vendor is spelled in it. -/
theorem exists_token_of_matrixVersion {version : Version}
    (h : device.matrixVersion = .ok (some version)) :
    ∃ path, device.vendorMatrix? = some path ∧
      ∃ token ∈ tokensAt device.files MatrixFacts.tokens path,
        Version.parse token = some version := by
  unfold matrixVersion at h
  cases hpath : device.vendorMatrix? with
  | none => simp [hpath] at h
  | some path =>
    cases hfacts : MatrixFacts.ofFile device.files path with
    | error error => simp [hpath, hfacts, Except.map] at h
    | ok facts =>
      simp only [hpath, hfacts, Except.map, Except.ok.injEq] at h
      exact ⟨path, rfl, MatrixFacts.exists_token hfacts h⟩

end DeviceRoot

end Treble.Vintf
