import Treble.Proofs.Except
import Treble.Vintf.Manifest
import Treble.Vintf.Matrix
import Treble.Vintf.Sepolicy

/-!
# Errors of VINTF files

A manifest, a matrix or a version file gives no facts where it cannot be read, and a manifest or a
matrix also where its text is at fault. No other error comes from a file.

## Main definitions

* `Vintf.Error.IsOfFile` — the errors that a file can give
* `Vintf.DeviceRoot.matrixVersion` — the version in the matrix of the vendor, if there is one

## Main results

* `FileSystem.exists_read_error_iff` — when nothing can be read
* `Vintf.ManifestFacts.ofFile_eq_error_iff`, `Vintf.MatrixFacts.ofFile_eq_error_iff` — when a file
  gives no facts, and with which error
* `Vintf.ManifestFacts.ofFile_eq_ok_iff`, `Vintf.MatrixFacts.ofFile_eq_ok_iff` — when a file gives
  facts, and which ones
-/

namespace Treble

namespace FileSystem

variable {files : FileSystem} {path : String}

theorem mem_filesIn_iff {directory : String} :
    path ∈ files.filesIn directory ↔
      (∃ name ∈ files.names directory, join directory name = path) ∧ files.isFile path = true := by
  rw [filesIn, List.mem_filter, List.mem_map]

/-- Where a file stands, the path leads somewhere. -/
theorem leadsTo_of_isFile (h : files.isFile path = true) :
    files.leadsTo path = true := by
  unfold isFile at h
  unfold leadsTo
  cases hentry : files path with
  | error cause => simp [hentry] at h
  | ok entry => rfl

theorem leadsTo_of_opens (opens : files.opens path = true) : files.leadsTo path = true := by
  unfold FileSystem.opens at opens
  unfold leadsTo
  cases hentry : files path with
  | error cause => simp [hentry] at opens
  | ok entry => rfl

/-- Nothing can be read where no file stands or nothing opens. -/
theorem exists_read_error_iff :
    (∃ cause, files.read path = .error cause) ↔
      files.isFile path = false ∨ files.opens path = false := by
  unfold read isFile opens
  rcases files path with cause | (_ | _) | (_ | _) <;>
    simp [Except.bind, Entry.content, Entry.isFile, Entry.opens, Except.isOk, Except.toBool]

end FileSystem

namespace Vintf

/-- An error that a file can give: it cannot be read, or is no XML. -/
def Error.IsOfFile : Error → Prop
  | .read .. | .xml .. => True
  | .missingClosingTag _ => False

/-- A document gives no facts iff it cannot be read or its text is at fault. -/
theorem readDocument_bind_eq_error_iff {α : Type} {files : FileSystem} {path : String}
    {error : Error} (scan : String → Except Xml.Fault α) :
    ((readDocument files path).bind fun document =>
        (scan document).mapError fun fault => Error.xml path fault.message none) = .error error ↔
      (∃ cause, files.read path = .error cause ∧
        error = .read path cause.message (some readHint)) ∨
      ∃ bytes fault, files.read path = .ok bytes ∧ scan (decode bytes) = .error fault ∧
        error = .xml path fault.message none := by
  unfold readDocument
  rcases files.read path with cause | bytes
  · simp [Except.bind, Error.withHint, eq_comm]
  · simp [Except.bind, mapError_eq_error_iff]

/-- A document gives facts iff it can be read and its text gives them. -/
theorem readDocument_bind_eq_ok_iff {α : Type} {files : FileSystem} {path : String} {facts : α}
    (scan : String → Except Xml.Fault α) :
    ((readDocument files path).bind fun document =>
        (scan document).mapError fun fault => Error.xml path fault.message none) = .ok facts ↔
      ∃ bytes, files.read path = .ok bytes ∧ scan (decode bytes) = .ok facts := by
  unfold readDocument
  rcases files.read path with cause | bytes
  · simp [Except.bind]
  · simp [Except.bind, mapError_eq_ok_iff]

theorem ManifestFacts.ofFile_eq_error_iff {files : FileSystem} {path : String} {error : Error} :
    ofFile files path = .error error ↔
      (∃ cause, files.read path = .error cause ∧
        error = .read path cause.message (some readHint)) ∨
      ∃ bytes fault, files.read path = .ok bytes ∧
        ofReading (Xml.read (decode bytes)) = .error fault ∧
        error = .xml path fault.message none :=
  readDocument_bind_eq_error_iff fun document => ofReading (Xml.read document)

theorem MatrixFacts.ofFile_eq_error_iff {files : FileSystem} {path : String} {error : Error} :
    ofFile files path = .error error ↔
      (∃ cause, files.read path = .error cause ∧
        error = .read path cause.message (some readHint)) ∨
      ∃ bytes fault, files.read path = .ok bytes ∧
        ofReading (Xml.read (decode bytes)) = .error fault ∧
        error = .xml path fault.message none :=
  readDocument_bind_eq_error_iff fun document => ofReading (Xml.read document)

theorem ManifestFacts.ofFile_eq_ok_iff {files : FileSystem} {path : String}
    {facts : ManifestFacts} :
    ofFile files path = .ok facts ↔ ∃ bytes, files.read path = .ok bytes ∧
      ofReading (Xml.read (decode bytes)) = .ok facts :=
  readDocument_bind_eq_ok_iff fun document => ofReading (Xml.read document)

theorem MatrixFacts.ofFile_eq_ok_iff {files : FileSystem} {path : String} {facts : MatrixFacts} :
    ofFile files path = .ok facts ↔ ∃ bytes, files.read path = .ok bytes ∧
      ofReading (Xml.read (decode bytes)) = .ok facts :=
  readDocument_bind_eq_ok_iff fun document => ofReading (Xml.read document)

theorem ManifestFacts.isOfFile_of_ofFile {files : FileSystem} {path : String} {error : Error}
    (h : ofFile files path = .error error) : error.IsOfFile := by
  rcases ofFile_eq_error_iff.mp h with ⟨_, _, rfl⟩ | ⟨_, _, _, _, rfl⟩ <;> trivial

theorem MatrixFacts.isOfFile_of_ofFile {files : FileSystem} {path : String} {error : Error}
    (h : ofFile files path = .error error) : error.IsOfFile := by
  rcases ofFile_eq_error_iff.mp h with ⟨_, _, rfl⟩ | ⟨_, _, _, _, rfl⟩ <;> trivial

namespace DeviceRoot

/-- A file is found iff something stands at its place and can be opened. -/
theorem readable?_eq_some_iff {device : DeviceRoot} {place path : String} :
    device.readable? place = some path ↔
      device.files.leadsTo (device.locate place) = true ∧
        device.files.opens (device.locate place) = true ∧ device.locate place = path := by
  unfold readable? candidate
  cases device.files.leadsTo (device.locate place) with
  | false => simp [Candidate.path?]
  | true =>
    cases device.files.opens (device.locate place) with
    | false => simp [Candidate.path?]
    | true => simp [Candidate.path?]

/-- The version in the matrix of the vendor. There is none without a matrix. -/
def matrixVersion (device : DeviceRoot) : Except Error (Option Version) :=
  match device.vendorMatrix? with
  | none => .ok none
  | some path => (MatrixFacts.ofFile device.files path).map MatrixFacts.vendorNdkVersion

theorem isOfFile_of_matrixVersion {device : DeviceRoot} {error : Error}
    (h : device.matrixVersion = .error error) : error.IsOfFile := by
  unfold matrixVersion at h
  split at h
  · cases h
  · next path _ =>
    cases hfacts : MatrixFacts.ofFile device.files path with
    | ok facts =>
      rw [hfacts] at h
      cases h
    | error cause =>
      rw [hfacts] at h
      cases h
      exact MatrixFacts.isOfFile_of_ofFile hfacts

theorem isOfFile_of_sepolicyVersion {device : DeviceRoot} {error : Error}
    (h : device.sepolicyVersion = .error error) : error.IsOfFile := by
  unfold sepolicyVersion at h
  split at h
  · split at h
    · cases h
    · cases h
      trivial
  · cases h

end DeviceRoot

end Vintf

end Treble
