import Treble.Proofs.Vintf.Places

/-!
# File systems that agree

Of a file system, the lookups read no more than what stands at a few paths and the names in three
directories. Of a file, they read whether it is there, what kind it has, whether it opens, and what
its bytes are taken for. Why it does not open is only told where it is not passed over.

## Main definitions

* `FileSystem.AgreeAt` — two file systems agree on what stands at a path
* `FileSystem.SameReasonAt` — what does not open at a path does not for the same reason
* `Vintf.DeviceRoot.AgreeOn` — a file system agrees with that of a device on all that is looked up

## Main results

* `Vintf.DeviceRoot.AgreeOn.manifests` — the same manifests are located
* `Vintf.DeviceRoot.AgreeOn.ofFile` — and have the same facts
* `Vintf.DeviceRoot.AgreeOn.ofFile_matrix`, `Vintf.DeviceRoot.AgreeOn.sepolicyVersion` — so does the
  matrix, and the policy names the same version
-/

namespace Treble

namespace FileSystem

variable {α : Type} {view : List UInt8 → α} {files other : FileSystem} {path : String}

/-- Two file systems agree on a path: whether it leads anywhere, whether a file stands there, whether it
opens and, if it does, what its bytes are taken for. -/
structure AgreeAt (view : List UInt8 → α) (files other : FileSystem) (path : String) : Prop where
  leadsTo : other.leadsTo path = files.leadsTo path
  isFile : other.isFile path = files.isFile path
  opens : other.opens path = files.opens path
  read : files.opens path = true → (other.read path).map view = (files.read path).map view

/-- What does not open at a path in one file system does not open in the other one for the same
reason. -/
def SameReasonAt (files other : FileSystem) (path : String) : Prop :=
  files.leadsTo path = true → files.opens path = false → other.read path = files.read path

theorem AgreeAt.of_eq (h : other path = files path) : AgreeAt view files other path where
  leadsTo := by simp only [FileSystem.leadsTo, h]
  isFile := by simp only [FileSystem.isFile, h]
  opens := by simp only [FileSystem.opens, h]
  read _ := by simp only [FileSystem.read, h]

theorem SameReasonAt.of_eq (h : other path = files path) : SameReasonAt files other path :=
  fun _ _ => by rw [read, read, h]

theorem names_of_eq (h : other path = files path) : other.names path = files.names path := by
  rw [names, names, h]

/-- What is read at a path is the same, if it opens or does not for the same reason. -/
theorem AgreeAt.map_read (agree : AgreeAt view files other path)
    (h : files.opens path = true ∨ files.leadsTo path = true ∧ SameReasonAt files other path) :
    (other.read path).map view = (files.read path).map view := by
  cases opens : files.opens path with
  | true => exact agree.read opens
  | false =>
    obtain ⟨leads, reason⟩ := h.resolve_left (by simp [opens])
    rw [reason leads opens]

theorem AgreeAt.read_eq (agree : AgreeAt id files other path)
    (h : files.opens path = true ∨ files.leadsTo path = true ∧ SameReasonAt files other path) :
    other.read path = files.read path := by
  simpa only [Except.map_id, id_eq] using agree.map_read h

/-- What opens nowhere gives nothing, for whatever reason. -/
theorem AgreeAt.toOption_read (agree : AgreeAt id files other path) :
    (other.read path).toOption = (files.read path).toOption := by
  cases opens : files.opens path with
  | true => rw [agree.read_eq (.inl opens)]
  | false =>
    obtain ⟨cause, hcause⟩ := exists_read_error_iff.mpr (.inr opens)
    obtain ⟨reason, hreason⟩ := exists_read_error_iff.mpr (.inr (agree.opens.trans opens))
    rw [hcause, hreason]
    rfl

/-- The regular files in a directory are the same, if the names are and the entries agree. -/
theorem filesIn_eq {directory : String} (hnames : other.names directory = files.names directory)
    (agree : ∀ name ∈ files.names directory, AgreeAt view files other (join directory name)) :
    other.filesIn directory = files.filesIn directory := by
  rw [filesIn, filesIn, hnames]
  apply List.filter_congr
  intro path hpath
  obtain ⟨name, hname, rfl⟩ := List.mem_map.mp hpath
  exact (agree name hname).isFile

end FileSystem

namespace Vintf

open FileSystem (AgreeAt SameReasonAt)

/-- Of a document, only the text is read. -/
theorem readDocument_eq_map (files : FileSystem) (path : String) :
    readDocument files path = ((files.read path).map decode).mapError fun cause =>
      .read path cause.message (some readHint) := by
  unfold readDocument
  cases files.read path <;> rfl

namespace DeviceRoot

variable {device : DeviceRoot} {files : FileSystem} {vendorSku hardwareSku : Option String}

/-- The device with other files below the same directory. -/
def withFiles (device : DeviceRoot) (files : FileSystem) : DeviceRoot :=
  { device with files := files }

/-- A file system agrees with that of a device on all that is looked up. -/
structure AgreeOn (device : DeviceRoot) (files : FileSystem)
    (vendorSku hardwareSku : Option String) : Prop where
  documents : ∀ path, device.IsDocument vendorSku hardwareSku path →
    AgreeAt decode device.files files path
  vendorFragments : files.names (device.locate vendorFragmentPlace) =
    device.files.names (device.locate vendorFragmentPlace)
  odmFragments : files.names (device.locate odmFragmentPlace) =
    device.files.names (device.locate odmFragmentPlace)
  policyNames : (files.names device.policyDirectory).filter isPolicyName =
    (device.files.names device.policyDirectory).filter isPolicyName
  policies : ∀ name ∈ device.files.names device.policyDirectory, isPolicyName name = true →
    AgreeAt id device.files files (FileSystem.join device.policyDirectory name)
  versionFile : AgreeAt id device.files files device.versionFile
  /-- The ODM fragments and the version file are not passed over if they do not open. -/
  reasons : ∀ path, path ∈ device.odmFragments ∨ path = device.versionFile →
    SameReasonAt device.files files path

theorem candidate_withFiles {α : Type} {view : List UInt8 → α} {place : String}
    (agree : AgreeAt view device.files files (device.locate place)) :
    (device.withFiles files).candidate place = device.candidate place := by
  have hleads : (device.withFiles files).files.leadsTo ((device.withFiles files).locate place) =
      device.files.leadsTo (device.locate place) := agree.leadsTo
  have hopens : (device.withFiles files).files.opens ((device.withFiles files).locate place) =
      device.files.opens (device.locate place) := agree.opens
  rw [candidate, candidate, hleads, hopens]
  rfl

/-- A file system agrees with that of a device if it does on documents, lists the same names and has the
same files of the policy. -/
theorem AgreeOn.of_documents
    (documents : ∀ path, device.IsDocument vendorSku hardwareSku path →
      AgreeAt decode device.files files path ∧ SameReasonAt device.files files path)
    (names : ∀ place ∈ [vendorFragmentPlace, odmFragmentPlace, "vendor/etc/selinux"],
      files.names (device.locate place) = device.files.names (device.locate place))
    (policy : ∀ name, files (FileSystem.join device.policyDirectory name) =
      device.files (FileSystem.join device.policyDirectory name)) :
    device.AgreeOn files vendorSku hardwareSku where
  documents path document := (documents path document).1
  vendorFragments := names _ (by simp)
  odmFragments := names _ (by simp)
  policyNames := congrArg _ (names _ (by simp))
  policies name _ _ := .of_eq (policy name)
  versionFile := .of_eq (policy _)
  reasons path h := by
    rcases h with fragment | rfl
    · exact (documents path (Located.odmFragment fragment).isDocument).2
    · exact .of_eq (policy _)

/-! ### The matrix -/

theorem vendorMatrix_withFiles (agree : AgreeAt decode device.files files (device.locate matrixPlace)) :
    (device.withFiles files).vendorMatrix? = device.vendorMatrix? :=
  congrArg Candidate.path? (candidate_withFiles agree)

/-- The facts of the matrix hang on what stands at its place. -/
theorem ofFile_matrix_withFiles {path : String}
    (agree : AgreeAt decode device.files files (device.locate matrixPlace))
    (h : device.vendorMatrix? = some path) :
    MatrixFacts.ofFile files path = MatrixFacts.ofFile device.files path := by
  obtain ⟨_, hopens, rfl⟩ := readable?_eq_some_iff.mp h
  rw [MatrixFacts.ofFile, MatrixFacts.ofFile, readDocument_eq_map, readDocument_eq_map,
    agree.map_read (.inl hopens)]

/-! ### The policy -/

/-- The policy files hang on their names and what stands at these. -/
theorem policies_withFiles
    (names : (files.names device.policyDirectory).filter isPolicyName =
      (device.files.names device.policyDirectory).filter isPolicyName)
    (agree : ∀ name ∈ device.files.names device.policyDirectory, isPolicyName name = true →
      AgreeAt id device.files files (FileSystem.join device.policyDirectory name)) :
    (device.withFiles files).policies = device.policies := by
  unfold DeviceRoot.policies
  change ((files.names device.policyDirectory).filter isPolicyName).filterMap _ = _
  rw [names]
  apply List.filterMap_congr
  intro name hname
  obtain ⟨mem, policy⟩ := List.mem_filter.mp hname
  have hpath := agree name mem policy
  have hfile : (device.withFiles files).files.isFile
      (FileSystem.join (device.withFiles files).policyDirectory name) =
        device.files.isFile (FileSystem.join device.policyDirectory name) := hpath.isFile
  have hread : ((device.withFiles files).files.read
      (FileSystem.join (device.withFiles files).policyDirectory name)).toOption =
        (device.files.read (FileSystem.join device.policyDirectory name)).toOption :=
    hpath.toOption_read
  simp only [hfile, hread]

/-- The version of the policy hangs on the version file, and where there is none on the policy files. -/
theorem sepolicyVersion_withFiles (agree : AgreeAt id device.files files device.versionFile)
    (reason : SameReasonAt device.files files device.versionFile)
    (policies : (device.withFiles files).policies = device.policies) :
    (device.withFiles files).sepolicyVersion = device.sepolicyVersion := by
  have hleads : (device.withFiles files).files.leadsTo (device.withFiles files).versionFile =
      device.files.leadsTo device.versionFile := agree.leadsTo
  rw [DeviceRoot.sepolicyVersion, DeviceRoot.sepolicyVersion, hleads, scannedVersion,
    scannedVersion, policies]
  split_ifs with leads
  · have hread : (device.withFiles files).files.read (device.withFiles files).versionFile =
        device.files.read device.versionFile := agree.read_eq (.inr ⟨leads, reason⟩)
    rw [hread]
    rfl
  · rfl

namespace AgreeOn

variable (agree : device.AgreeOn files vendorSku hardwareSku)

include agree

/-! ### Manifests -/

theorem candidate {place : String} (mem : place ∈ manifestPlaces vendorSku hardwareSku) :
    (device.withFiles files).candidate place = device.candidate place :=
  candidate_withFiles (agree.documents _ (.manifest mem))

theorem vendorManifest :
    (device.withFiles files).vendorManifest vendorSku = device.vendorManifest vendorSku := by
  have mem : vendorPlace vendorSku ∈ manifestPlaces vendorSku hardwareSku := by
    simp [manifestPlaces]
  exact congrArg Candidate.path? (agree.candidate mem)

theorem legacyManifest : (device.withFiles files).legacyManifest = device.legacyManifest := by
  have mem : legacyPlace ∈ manifestPlaces vendorSku hardwareSku := by simp [manifestPlaces]
  exact congrArg Candidate.path? (agree.candidate mem)

theorem odmManifest :
    (device.withFiles files).odmManifest hardwareSku = device.odmManifest hardwareSku := by
  have mem : odmPlace hardwareSku ∈ manifestPlaces vendorSku hardwareSku := by
    simp [manifestPlaces]
  have fallback : odmFallbackPlace hardwareSku ∈ manifestPlaces vendorSku hardwareSku := by
    simp [manifestPlaces]
  rw [DeviceRoot.odmManifest, DeviceRoot.odmManifest, agree.candidate mem,
    agree.candidate fallback]

theorem odmFragments_eq : (device.withFiles files).odmFragments = device.odmFragments :=
  FileSystem.filesIn_eq agree.odmFragments fun _ mem => agree.documents _ (.odmFragment mem)

theorem vendorFragments_eq : (device.withFiles files).vendorFragments = device.vendorFragments := by
  have hfiles : files.filesIn (device.locate vendorFragmentPlace) =
      device.files.filesIn (device.locate vendorFragmentPlace) :=
    FileSystem.filesIn_eq agree.vendorFragments fun _ mem =>
      agree.documents _ (.vendorFragment mem)
  unfold DeviceRoot.vendorFragments
  change (files.filesIn (device.locate vendorFragmentPlace)).filter files.opens = _
  rw [hfiles]
  apply List.filter_congr
  intro path hpath
  obtain ⟨⟨name, hname, rfl⟩, _⟩ := FileSystem.mem_filesIn_iff.mp hpath
  exact (agree.documents _ (.vendorFragment hname)).opens

/-- The same manifests are located. -/
theorem manifests : (device.withFiles files).manifests vendorSku hardwareSku =
    device.manifests vendorSku hardwareSku := by
  have hmodern : (device.withFiles files).modernManifests vendorSku hardwareSku =
      device.modernManifests vendorSku hardwareSku := by
    rw [modernManifests, modernManifests, agree.vendorManifest, agree.odmManifest,
      agree.vendorFragments_eq, agree.odmFragments_eq]
  rw [DeviceRoot.manifests, DeviceRoot.manifests, hmodern, agree.legacyManifest]

/-- The located manifests have the same facts, or the same errors. -/
theorem ofFile {path : String} (h : path ∈ (device.manifests vendorSku hardwareSku).files) :
    ManifestFacts.ofFile files path = ManifestFacts.ofFile device.files path := by
  have located := located_of_mem h
  have hread : device.files.opens path = true ∨
      device.files.leadsTo path = true ∧ SameReasonAt device.files files path := by
    refine located.opens_or.imp_right fun fragment => ⟨?_, agree.reasons _ (.inl fragment)⟩
    exact FileSystem.leadsTo_of_isFile (FileSystem.mem_filesIn_iff.mp fragment).2
  rw [ManifestFacts.ofFile, ManifestFacts.ofFile, readDocument_eq_map, readDocument_eq_map,
    (agree.documents _ located.isDocument).map_read hread]

/-! ### The matrix and the policy -/

theorem vendorMatrix : (device.withFiles files).vendorMatrix? = device.vendorMatrix? :=
  vendorMatrix_withFiles (agree.documents _ .matrix)

theorem ofFile_matrix {path : String} (h : device.vendorMatrix? = some path) :
    MatrixFacts.ofFile files path = MatrixFacts.ofFile device.files path :=
  ofFile_matrix_withFiles (agree.documents _ .matrix) h

/-- The policy names the same version, or cannot be read for the same reason. -/
theorem sepolicyVersion : (device.withFiles files).sepolicyVersion = device.sepolicyVersion :=
  sepolicyVersion_withFiles agree.versionFile (agree.reasons _ (.inr rfl))
    (policies_withFiles agree.policyNames agree.policies)

end AgreeOn

end DeviceRoot

end Vintf

end Treble
