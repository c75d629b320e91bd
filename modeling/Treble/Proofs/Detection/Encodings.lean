import Treble.Proofs.Detection.Inputs
import Treble.Proofs.Vintf.Encodings

/-!
# Encodings do not matter

A manifest or a matrix that is written in another encoding is the same document, so that it has the
same facts, and a device with it has the same verdict.

## Main results

* `Detection.Device.detect_reencoded` — how documents are written changes nothing
-/

namespace Treble.Detection.Device

open Vintf (DeviceRoot ManifestFacts MatrixFacts Reencoded Spells BeginsWithMark)

/-- A document in UTF-8, with a byte order mark or without one, or in little-endian UTF-16 with one, is
read as it was written, unless it begins with such a mark itself. So it has the same facts in each of
these encodings, and detection comes to the same with documents that are written in others of them. -/
theorem detect_reencoded :
    (∀ (files : FileSystem) (path document : String), ¬ BeginsWithMark document →
      Spells files path document → Vintf.readDocument files path = .ok document) ∧
    (∀ (files other : FileSystem) (path : String), Reencoded files other path →
      ManifestFacts.ofFile other path = ManifestFacts.ofFile files path ∧
        MatrixFacts.ofFile other path = MatrixFacts.ofFile files path) ∧
    (∀ (device : Device) (files : FileSystem),
      (∀ path, files path = device.root.files path ∨
        device.root.IsDocument device.vendorSku device.hardwareSku path ∧
          Reencoded device.root.files files path) →
      ∀ {σ : Type} (engine : Engine σ) (state : σ),
        (device.withFiles files).detect engine state = device.detect engine state) := by
  refine ⟨?_, ?_, ?_⟩
  · intro files path document unmarked spells
    exact spells.readDocument_eq unmarked
  · intro files other path reencoded
    rw [ManifestFacts.ofFile, ManifestFacts.ofFile, MatrixFacts.ofFile, MatrixFacts.ofFile,
      reencoded.readDocument_eq]
    exact ⟨rfl, rfl⟩
  · intro device files h σ engine state
    have agree := DeviceRoot.agreeOn_of_reencoded h
    exact (sameInputs_withFiles agree).detect_eq engine state

/-- The files of the old vendor, with the manifest in UTF-16. -/
def wideFiles : FileSystem :=
  Function.update oldVendor.root.files "/vendor/etc/vintf/manifest.xml"
    (.ok (.file (.ok (0xFF :: 0xFE :: Text.Utf16.encode oldVendor.manifest.toList))))

/-- The old vendor has the same verdict with its manifest in UTF-16. -/
theorem detect_reencoded_oldVendor :
    ¬ BeginsWithMark oldVendor.manifest ∧
    Vintf.readDocument wideFiles "/vendor/etc/vintf/manifest.xml" = .ok oldVendor.manifest ∧
    (oldVendor.withFiles wideFiles).detect Engine.absent () =
      oldVendor.detect Engine.absent () := by
  have unmarked : ¬ BeginsWithMark oldVendor.manifest := by decide
  have hwide : Spells wideFiles "/vendor/etc/vintf/manifest.xml" oldVendor.manifest :=
    ⟨_, .wide, Function.update_self ..⟩
  have hplain : Spells oldVendor.root.files "/vendor/etc/vintf/manifest.xml" oldVendor.manifest := by
    have hbytes : oldVendor.manifest.toUTF8.toList =
        Text.Utf8.encode oldVendor.manifest.toList := by decide +kernel
    exact ⟨_, .plain, by rw [← hbytes]; rfl⟩
  refine ⟨unmarked, detect_reencoded.1 _ _ _ unmarked hwide, ?_⟩
  apply detect_reencoded.2.2 oldVendor wideFiles
  intro path
  by_cases hpath : path = "/vendor/etc/vintf/manifest.xml"
  · subst hpath
    have mem : DeviceRoot.vendorPlace none ∈ DeviceRoot.manifestPlaces none none := by
      simp [DeviceRoot.manifestPlaces]
    exact .inr ⟨.manifest mem, _, unmarked, hplain, hwide⟩
  · exact .inl (Function.update_of_ne hpath _ _)

end Treble.Detection.Device
