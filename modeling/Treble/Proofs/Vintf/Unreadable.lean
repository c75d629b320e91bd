import Treble.Proofs.Vintf.Places

/-!
# Files that cannot be read

Most files that cannot be opened are passed over as if they were missing. Reading only fails where a
lookup has let something pass that cannot be read: an ODM fragment that does not open, a directory in
the place of a manifest or the matrix, and whatever stands in the place of the version file.

## Main definitions

* `FileSystem.IsLockedFile`, `FileSystem.IsOpenDirectory` — what cannot be read, though a file stands
  there, or something opens
* `Vintf.DeviceRoot.MayBeClosed` — the paths at which something may stand that does not open

## Main results

* `Vintf.DeviceRoot.Located.of_unread` — what stands where a manifest is located and cannot be read
* `Vintf.DeviceRoot.exists_matrixVersion_read_error_iff`,
  `Vintf.DeviceRoot.exists_sepolicyVersion_read_error_iff` — when the matrix and the policy cannot be
  read
* `Vintf.DeviceRoot.MayBeClosed.not_mem_odmFragments`, `Vintf.DeviceRoot.MayBeClosed.ne_versionFile` —
  what may be closed is neither an ODM fragment nor the version file
-/

namespace Treble

namespace FileSystem

variable {files : FileSystem} {path : String}

/-- A regular file that does not open. -/
def IsLockedFile (files : FileSystem) (path : String) : Prop :=
  ∃ cause, files path = .ok (.file (.error cause))

/-- A directory that opens. -/
def IsOpenDirectory (files : FileSystem) (path : String) : Prop :=
  ∃ names, files path = .ok (.directory (.ok names))

theorem isLockedFile_iff :
    files.IsLockedFile path ↔ files.isFile path = true ∧ files.opens path = false := by
  unfold IsLockedFile isFile opens
  rcases files path with cause | (_ | _) | (_ | _) <;>
    simp [Entry.isFile, Entry.opens, Except.isOk, Except.toBool]

theorem isOpenDirectory_iff :
    files.IsOpenDirectory path ↔ files.isFile path = false ∧ files.opens path = true := by
  unfold IsOpenDirectory isFile opens
  rcases files path with cause | (_ | _) | (_ | _) <;>
    simp [Entry.isFile, Entry.opens, Except.isOk, Except.toBool]

/-- What opens cannot be read iff it is a directory. -/
theorem exists_read_error_iff_of_opens (opens : files.opens path = true) :
    (∃ cause, files.read path = .error cause) ↔ files.IsOpenDirectory path := by
  rw [exists_read_error_iff, isOpenDirectory_iff, opens]
  simp

end FileSystem

namespace Vintf

open FileSystem (IsLockedFile IsOpenDirectory)

section Documents

variable {files : FileSystem} {path other : String}

/-- A document fails on reading iff it cannot be read. -/
theorem exists_bind_read_error_iff {α : Type} (scan : String → Except Xml.Fault α) :
    (∃ reason hint, ((readDocument files path).bind fun document =>
        (scan document).mapError fun fault => Error.xml path fault.message none) =
          .error (.read other reason hint)) ↔
      other = path ∧ ∃ cause, files.read path = .error cause := by
  simp only [readDocument_bind_eq_error_iff]
  constructor
  · rintro ⟨reason, hint, ⟨cause, hcause, herror⟩ | ⟨_, _, _, _, herror⟩⟩
    · cases herror
      exact ⟨rfl, cause, hcause⟩
    · cases herror
  · rintro ⟨rfl, cause, hcause⟩
    exact ⟨_, _, .inl ⟨cause, hcause, rfl⟩⟩

theorem ManifestFacts.exists_read_error_iff :
    (∃ reason hint, ManifestFacts.ofFile files path = .error (.read other reason hint)) ↔
      other = path ∧ ∃ cause, files.read path = .error cause :=
  exists_bind_read_error_iff fun document => ofReading (Xml.read document)

theorem MatrixFacts.exists_read_error_iff :
    (∃ reason hint, MatrixFacts.ofFile files path = .error (.read other reason hint)) ↔
      other = path ∧ ∃ cause, files.read path = .error cause :=
  exists_bind_read_error_iff fun document => ofReading (Xml.read document)

end Documents

namespace DeviceRoot

variable {device : DeviceRoot} {vendorSku hardwareSku : Option String} {path : String}

/-- Where a manifest is located that cannot be read, stands an ODM fragment that does not open, or a
directory. -/
theorem Located.of_unread (located : device.Located vendorSku hardwareSku path)
    (unread : ∃ cause, device.files.read path = .error cause) :
    path ∈ device.odmFragments ∧ device.files.IsLockedFile path ∨
      (∃ place ∈ manifestPlaces vendorSku hardwareSku, path = device.locate place) ∧
        device.files.IsOpenDirectory path := by
  cases located with
  | @manifest place mem opens =>
    exact .inr ⟨⟨place, mem, rfl⟩, (FileSystem.exists_read_error_iff_of_opens opens).mp unread⟩
  | vendorFragment mem =>
    obtain ⟨mem, opens⟩ := List.mem_filter.mp mem
    have file := (FileSystem.mem_filesIn_iff.mp mem).2
    rw [FileSystem.exists_read_error_iff, file, opens] at unread
    simp at unread
  | odmFragment mem =>
    have file := (FileSystem.mem_filesIn_iff.mp mem).2
    rw [FileSystem.exists_read_error_iff, file] at unread
    exact .inl ⟨mem, FileSystem.isLockedFile_iff.mpr ⟨file, unread.resolve_left (by simp)⟩⟩

/-- The matrix cannot be read iff a directory stands in its place. -/
theorem exists_matrixVersion_read_error_iff :
    (∃ reason hint, device.matrixVersion = .error (.read path reason hint)) ↔
      path = device.locate matrixPlace ∧
        device.files.IsOpenDirectory (device.locate matrixPlace) := by
  cases hmatrix : device.vendorMatrix? with
  | none =>
    have closed : ¬ device.files.IsOpenDirectory (device.locate matrixPlace) := by
      intro directory
      have opens := (FileSystem.isOpenDirectory_iff.mp directory).2
      have found := readable?_eq_some_iff.mpr ⟨FileSystem.leadsTo_of_opens opens, opens, rfl⟩
      rw [vendorMatrix?, found] at hmatrix
      cases hmatrix
    simp [matrixVersion, hmatrix, closed]
  | some found =>
    obtain ⟨_, opens, rfl⟩ := readable?_eq_some_iff.mp hmatrix
    rw [← FileSystem.exists_read_error_iff_of_opens opens, ← MatrixFacts.exists_read_error_iff]
    simp only [matrixVersion, hmatrix]
    cases MatrixFacts.ofFile device.files (device.locate matrixPlace) <;> simp [Except.map]

/-- The policy cannot be read iff something stands in the place of its version file that is no file or
does not open. -/
theorem exists_sepolicyVersion_read_error_iff :
    (∃ reason hint, device.sepolicyVersion = .error (.read path reason hint)) ↔
      path = device.versionFile ∧ device.files.leadsTo device.versionFile = true ∧
        (device.files.isFile device.versionFile = false ∨
          device.files.opens device.versionFile = false) := by
  rw [← FileSystem.exists_read_error_iff]
  unfold sepolicyVersion
  split_ifs with leads
  · cases device.files.read device.versionFile with
    | error cause => simp [leads, eq_comm]
    | ok bytes => simp
  · simp [leads]

/-! ### What may be closed -/

/-- The paths at which something may stand that does not open: all that detection reads but the ODM
fragments and the version file. -/
inductive MayBeClosed (device : DeviceRoot) (vendorSku hardwareSku : Option String) :
    String → Prop
  | manifest {place : String} (mem : place ∈ manifestPlaces vendorSku hardwareSku) :
      MayBeClosed device vendorSku hardwareSku (device.locate place)
  | vendorFragment (name : String) :
      MayBeClosed device vendorSku hardwareSku
        (FileSystem.join (device.locate vendorFragmentPlace) name)
  | matrix : MayBeClosed device vendorSku hardwareSku (device.locate matrixPlace)
  | policy {name : String} (isPolicy : isPolicyName name = true) :
      MayBeClosed device vendorSku hardwareSku (FileSystem.join device.policyDirectory name)

/-- How the places of these files begin, but for those of the policy. -/
def closedStarts (vendor odm : Bool) : List String :=
  manifestStarts vendor odm ++ ["vendor/etc/vintf/manifest/", matrixPlace]

theorem MayBeClosed.exists_start (closed : device.MayBeClosed vendorSku hardwareSku path) :
    (∃ start ∈ closedStarts (isVariant vendorSku) (isVariant hardwareSku),
      ∃ rest, path = device.locate (start ++ rest)) ∨
    ∃ name, isPolicyName name = true ∧ path = device.locate ("vendor/etc/selinux/" ++ name) := by
  cases closed with
  | manifest mem =>
    obtain ⟨start, hstart, rest, rfl⟩ := exists_start_of_mem mem
    exact .inl ⟨start, List.mem_append_left _ hstart, rest, rfl⟩
  | vendorFragment name =>
    exact .inl ⟨"vendor/etc/vintf/manifest/", by simp [closedStarts], name,
      join_vendorFragment device name⟩
  | matrix =>
    exact .inl ⟨matrixPlace, by simp [closedStarts], "", by rw [String.append_empty]⟩
  | @policy name isPolicy => exact .inr ⟨name, isPolicy, join_policyDirectory device name⟩

theorem MayBeClosed.not_mem_odmFragments (closed : device.MayBeClosed vendorSku hardwareSku path) :
    path ∉ device.odmFragments := by
  have apart : ∀ vendor odm, ∀ start ∈ closedStarts vendor odm,
      Apart "odm/etc/vintf/manifest/" start := by decide
  intro fragment
  obtain ⟨⟨name, _, hname⟩, _⟩ := FileSystem.mem_filesIn_iff.mp fragment
  rw [join_odmFragment] at hname
  obtain ⟨start, hstart, rest, rfl⟩ | ⟨other, _, rfl⟩ := closed.exists_start
  · exact locate_ne (apart _ _ start hstart) name rest hname
  · exact locate_ne (by decide) name other hname

theorem MayBeClosed.ne_versionFile (closed : device.MayBeClosed vendorSku hardwareSku path) :
    path ≠ device.versionFile := by
  have apart : ∀ vendor odm, ∀ start ∈ closedStarts vendor odm,
      Apart start "vendor/etc/selinux/" := by decide
  rw [versionFile, join_policyDirectory]
  obtain ⟨start, hstart, rest, rfl⟩ | ⟨name, isPolicy, rfl⟩ := closed.exists_start
  · exact locate_ne (apart _ _ start hstart) rest _
  -- The version file stands among the files of the policy, but its name has another ending.
  · rw [Ne, locate_inj, String.append_right_inj]
    rintro rfl
    exact absurd isPolicy (by decide)

end DeviceRoot

end Vintf

end Treble
