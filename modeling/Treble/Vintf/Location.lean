import Treble.FileSystem

/-!
# Locations of VINTF files

Where the manifests and the matrix of a device are, below the directory that holds its partitions.
Manifests are merged in this order:

1. the vendor manifest, and its fragments if it was found;
2. the ODM manifest, from one of two directories;
3. the ODM fragments, if the vendor manifest was found;
4. the manifest of a vendor from before Treble, if nothing else was found.

The product variants, where they are known, select the vendor and the ODM manifest.

## Main definitions

* `Vintf.DeviceRoot` — the directory of a device
* `Vintf.DeviceRoot.manifests` — the manifests of the device, in merge order
* `Vintf.DeviceRoot.vendorMatrix?` — the matrix of the vendor
-/

namespace Treble.Vintf

/-- The directory that holds the partitions of a device. -/
structure DeviceRoot where
  path : String
  files : FileSystem

/-- The manifests of a device, in merge order. -/
structure ManifestSet where
  files : List String
  /-- The only manifest is that of a vendor from before Treble. -/
  legacy : Bool
deriving DecidableEq, Repr

/-- What looking for one manifest comes to. -/
inductive Candidate where
  /-- There is nothing, so the next place is tried. -/
  | missing
  /-- There is something that cannot be opened, and the search is over. -/
  | unreadable
  | found (path : String)
deriving DecidableEq, Repr

/-- The path that was found. -/
def Candidate.path? : Candidate → Option String
  | .found path => some path
  | _ => none

/-- The first candidate unless it is missing, and else the second. -/
def Candidate.orElse : Candidate → Candidate → Candidate
  | .missing, other => other
  | candidate, _ => candidate

namespace DeviceRoot

/-- The path of a place below the root. -/
def locate (device : DeviceRoot) (place : String) : String := FileSystem.join device.path place

/-- Looks for a manifest. -/
def candidate (device : DeviceRoot) (place : String) : Candidate :=
  if device.files.leadsTo (device.locate place) then
    if device.files.opens (device.locate place) then .found (device.locate place) else .unreadable
  else .missing

/-- A file that is there and opens. -/
def readable? (device : DeviceRoot) (place : String) : Option String :=
  (device.candidate place).path?

/-- The name of a manifest: with the variant in it, if there is one that is not empty. -/
def manifestName : Option String → String
  | none => "manifest.xml"
  | some sku => if sku = "" then "manifest.xml" else "manifest_" ++ sku ++ ".xml"

/-- The place of the vendor manifest. -/
def vendorPlace (sku : Option String) : String := "vendor/etc/vintf/" ++ manifestName sku

/-- The place of the ODM manifest that is preferred. -/
def odmPlace (sku : Option String) : String := "odm/etc/vintf/" ++ manifestName sku

/-- The place of the ODM manifest where the preferred one is missing. -/
def odmFallbackPlace (sku : Option String) : String := "odm/etc/" ++ manifestName sku

/-- The place of the manifest of a vendor from before Treble. -/
def legacyPlace : String := "vendor/manifest.xml"

/-- The place of the matrix of the vendor. -/
def matrixPlace : String := "vendor/etc/vintf/compatibility_matrix.xml"

/-- The directory of the fragments of the vendor manifest. -/
def vendorFragmentPlace : String := "vendor/etc/vintf/manifest"

/-- The directory of the fragments of the ODM manifest. -/
def odmFragmentPlace : String := "odm/etc/vintf/manifest"

/-- The vendor manifest. -/
def vendorManifest (device : DeviceRoot) (sku : Option String) : Option String :=
  device.readable? (vendorPlace sku)

/-- The ODM manifest, from the first of two directories in which there is one. -/
def odmManifest (device : DeviceRoot) (sku : Option String) : Option String :=
  ((device.candidate (odmPlace sku)).orElse (device.candidate (odmFallbackPlace sku))).path?

/-- The fragments of the vendor manifest that open. -/
def vendorFragments (device : DeviceRoot) : List String :=
  (device.files.filesIn (device.locate vendorFragmentPlace)).filter device.files.opens

/-- The fragments of the ODM manifest, whether they open or not. -/
def odmFragments (device : DeviceRoot) : List String :=
  device.files.filesIn (device.locate odmFragmentPlace)

/-- The manifest of a vendor from before Treble. -/
def legacyManifest (device : DeviceRoot) : Option String := device.readable? legacyPlace

/-- The manifests of a device with Treble, in merge order. -/
def modernManifests (device : DeviceRoot) (vendorSku hardwareSku : Option String) : List String :=
  let odm := (device.odmManifest hardwareSku).toList
  match device.vendorManifest vendorSku with
  | some vendor => vendor :: device.vendorFragments ++ odm ++ device.odmFragments
  | none => odm

/-- The manifests of a device, in merge order. -/
def manifests (device : DeviceRoot) (vendorSku hardwareSku : Option String) : ManifestSet :=
  match device.modernManifests vendorSku hardwareSku, device.legacyManifest with
  | [], some legacy => { files := [legacy], legacy := true }
  | files, _ => { files := files, legacy := false }

/-- The matrix of the vendor. -/
def vendorMatrix? (device : DeviceRoot) : Option String :=
  device.readable? matrixPlace

end DeviceRoot

end Treble.Vintf
