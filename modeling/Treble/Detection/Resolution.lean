import Treble.Error
import Treble.Vintf.Location
import Treble.Vintf.Matrix
import Treble.Vintf.Sepolicy

/-!
# Resolution of the VNDK version

Four sources can tell the version. They are asked in turn: the property, the manifests, the matrix
of the vendor and the SELinux policy. A source settles the question, by a version or by denying
Treble, or leaves it to the next one.

## Main definitions

* `Detection.Evidence` — what is known before
* `Detection.Resolution` — what one source says
* `Detection.sources` — the sources in the order in which they are asked
* `Detection.resolve` — the version, or none where Treble is denied
-/

namespace Treble.Detection

open Vintf (DeviceRoot MatrixFacts)

/-- What is known before the version is resolved. -/
structure Evidence where
  /-- Something has confirmed that the device supports Treble. -/
  supportsTreble : Bool
  vndkProperty : Option Version
  manifestVersion : Option Version
deriving DecidableEq, Repr

/-- What one source says. -/
inductive Resolution where
  | confirmed (version : Version)
  /-- The device does not support Treble. -/
  | denied
  | inconclusive
deriving DecidableEq, Repr

/-- A source of the version. -/
abbrev Source := DeviceRoot → Evidence → Except Error Resolution

/-- A version, if there is one, is the answer. -/
def Resolution.ofVersion? : Option Version → Resolution
  | some version => .confirmed version
  | none => .inconclusive

/-- The first policy version that only devices with Treble have. -/
def firstTrebleOnly : Version := ⟨28, 0⟩

/-- The property tells the version. -/
def fromProperty : Source := fun _ evidence => .ok (.ofVersion? evidence.vndkProperty)

/-- The manifests tell the version if Treble is confirmed. If it is not, a version that only
devices with Treble have denies it, and an older one leaves the question open. -/
def fromManifests : Source := fun _ evidence =>
  match evidence.manifestVersion with
  | none => .ok .inconclusive
  | some version =>
    if evidence.supportsTreble then .ok (.confirmed version)
    else if firstTrebleOnly ≤ version then .ok .denied
    else .ok .inconclusive

/-- The error for a matrix and manifests that name different versions. -/
def differingVersions (manifest matrix : Version) (path : String) : Error :=
  .inconsistent
    ("Found differing versions in manifest (" ++ manifest.text ++ ") and matrix (" ++
      matrix.text ++ ")")
    { source := some path }

/-- What the version in a vendor's matrix says. Without confirmation it must be that of the
manifests. -/
def weighMatrix (evidence : Evidence) (path : String) (version : Version) :
    Except Error Resolution :=
  if evidence.supportsTreble then .ok (.confirmed version)
  else
    match evidence.manifestVersion with
    | none => .ok .inconclusive
    | some manifest =>
      if manifest = version then .ok (.confirmed version)
      else .error (differingVersions manifest version path)

/-- The matrix of the vendor tells the version. -/
def fromVendorMatrix : Source := fun device evidence =>
  match device.vendorMatrix? with
  | none => .ok .inconclusive
  | some path =>
    match MatrixFacts.ofFile device.files path with
    | .error error => .error (.vintf error)
    | .ok facts =>
      match facts.vendorNdkVersion with
      | none => .ok .inconclusive
      | some version => weighMatrix evidence path version

/-- The SELinux policy tells the version if Treble is confirmed. -/
def fromSepolicy : Source := fun device evidence =>
  if evidence.supportsTreble then
    match device.sepolicyVersion with
    | .error error => .error (.vintf error)
    | .ok version => .ok (.ofVersion? version)
  else .ok .inconclusive

/-- The sources in the order in which they are asked. -/
def sources : List Source := [fromProperty, fromManifests, fromVendorMatrix, fromSepolicy]

/-- The error for a device whose version no source tells. -/
def noVersion (evidence : Evidence) : Error :=
  .inconsistent "No method to detect version"
    { details := some ("supports_treble=" ++ if evidence.supportsTreble then "true" else "false") }

/-- Asks sources in turn. -/
def resolveBy (device : DeviceRoot) (evidence : Evidence) :
    List Source → Except Error (Option Version)
  | [] => .error (noVersion evidence)
  | source :: rest =>
    match source device evidence with
    | .error error => .error error
    | .ok (.confirmed version) => .ok (some version)
    | .ok .denied => .ok none
    | .ok .inconclusive => resolveBy device evidence rest

/-- The version, or none where Treble is denied. -/
def resolve (device : DeviceRoot) (evidence : Evidence) : Except Error (Option Version) :=
  resolveBy device evidence sources

end Treble.Detection
