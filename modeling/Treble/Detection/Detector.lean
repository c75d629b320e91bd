import Treble.Detection.Compliance
import Treble.Detection.MatrixCheck
import Treble.Detection.Resolution
import Treble.Detection.Verdict
import Treble.Property
import Treble.Vintf.Manifest

/-!
# Detection

What the properties of a device claim, what its manifests say and what the engine makes of it are
put together to one verdict. A claim that the manifests or the engine contradict is an error, not
a verdict.

## Main definitions

* `Detection.Device` — a device: its properties and its files
* `Detection.Claims` — what the properties claim
* `Detection.ManifestSummary` — what the manifests say together
* `Detection.Device.conclude` — the verdict, given all that is needed for it
* `Detection.Device.detectBy` — the verdict, given how the check against the matrices is made
* `Detection.Device.detect` — the verdict, with the calls of the engine that it takes
-/

namespace Treble.Detection

open Vintf (DeviceRoot ManifestFacts)
open Text (NameSet)

/-- A device: its properties and its files. -/
structure Device where
  properties : PropertyStore
  root : DeviceRoot

/-- What the properties of a device claim. -/
structure Claims where
  /-- The version that a property gives. -/
  vndkProperty : Option Version
  /-- Treble is said to be enabled. -/
  enabled : Bool
  /-- The VNDK is said to be the reduced one. -/
  lite : Bool
deriving DecidableEq, Repr

/-- Whether some property confirms that the device supports Treble. -/
def Claims.confirmTreble (claims : Claims) : Bool :=
  claims.vndkProperty.isSome || claims.enabled || claims.lite

/-- What the manifests of a device say together. -/
structure ManifestSummary where
  sepolicyVersion : Option Version := none
  targetLevel : Option Int64 := none
  passthroughHals : NameSet := ∅
deriving DecidableEq

/-- The level that a manifest aims at, if its text is a number of 64 bits. -/
def levelOf (facts : ManifestFacts) : Option Int64 :=
  facts.targetLevel.bind fun text => Text.Decimal.int64? text.toList

/-- The summary with a further manifest. Of versions and levels the first one holds. -/
def ManifestSummary.add (summary : ManifestSummary) (facts : ManifestFacts) : ManifestSummary :=
  { sepolicyVersion := summary.sepolicyVersion.or facts.sepolicyVersion
    targetLevel := summary.targetLevel.or (levelOf facts)
    passthroughHals := summary.passthroughHals ∪ facts.passthroughHals }

/-- The summary of manifests in merge order. -/
def ManifestSummary.ofFacts (manifests : List ManifestFacts) : ManifestSummary :=
  manifests.foldl add {}

/-- The summary of the manifests at some paths. The first one that cannot be read or is no XML is
an error. -/
def ManifestSummary.ofFiles (files : FileSystem) (paths : List String) :
    Except Vintf.Error ManifestSummary :=
  (paths.mapM (ManifestFacts.ofFile files)).map ofFacts

/-- The error for a device that does not say whether its VNDK is the reduced one. -/
def unknownLite : Error :=
  .malformed "Can't check lite status" { field := some Property.vndkLite }

/-- The error for a device that claims Treble support and meets no framework matrix. -/
def contradictedByMatrices (version : Version) : Error :=
  .inconsistent "Device claims Treble support but fails compatibility checks with AOSP matrices"
    { details := some ("sepolicy version " ++ version.text) }

/-- The error for a device that supports Treble and has a HAL that it must not have. -/
def contradictedByHals (hals : NameSet) : Error :=
  .inconsistent "Device reports Treble compliance but does not meet VNDK requirements"
    { details := some (", ".intercalate hals.toList) }

namespace Device

/-- What the properties claim. Whether the VNDK is the reduced one must be set. -/
def claims (device : Device) : Except Error Claims :=
  match device.properties Property.vndkLite with
  | none => .error unknownLite
  | some lite =>
    .ok { vndkProperty := (device.properties Property.vndkVersion).bind Version.parse
          enabled := device.properties.isTrue Property.trebleEnabled
          lite := Property.parseFlag lite == some true }

/-- The variant of the product that selects the vendor manifest. -/
def vendorSku (device : Device) : Option String := device.properties Property.vendorSku

/-- The variant of the product that selects the ODM manifest. -/
def hardwareSku (device : Device) : Option String := device.properties Property.hardwareSku

/-- The manifests, in merge order. -/
def manifests (device : Device) : Vintf.ManifestSet :=
  device.root.manifests device.vendorSku device.hardwareSku

/-- What the manifests say together. -/
def manifestSummary (device : Device) : Except Vintf.Error ManifestSummary :=
  ManifestSummary.ofFiles device.root.files device.manifests.files

/-- The check against the framework matrices. -/
def matrixCheck (device : Device) (summary : ManifestSummary) : MatrixCheck :=
  { root := device.root.path
    vendorSku := device.vendorSku.getD ""
    hardwareSku := device.hardwareSku.getD ""
    targetLevel := summary.targetLevel }

/-- What is known when the matrices have been checked. -/
def evidence (claims : Claims) (summary : ManifestSummary) (matched : Bool) : Evidence :=
  { supportsTreble := claims.confirmTreble || matched
    vndkProperty := claims.vndkProperty
    manifestVersion := summary.sepolicyVersion }

/-- The verdict on a device whose HALs comply. -/
def verdictOf (device : Device) (claims : Claims) (summary : ManifestSummary) (matched : Bool)
    (upgradeCompliant : Bool) : Except Error Verdict :=
  (resolve device.root (evidence claims summary matched)).map fun
    | none => .notTreble
    | some version =>
      .treble { legacy := device.manifests.legacy
                lite := claims.lite
                upgradeCompliant := upgradeCompliant
                version := version }

/-- The verdict on a device that is not found to be incompatible. -/
def judge (device : Device) (claims : Claims) (summary : ManifestSummary) (matched : Bool) :
    Except Error Verdict :=
  match compliance summary.passthroughHals with
  | .none =>
    if claims.confirmTreble || matched then .error (contradictedByHals summary.passthroughHals)
    else .ok .notTreble
  | .upgrade => device.verdictOf claims summary matched true
  | .full => device.verdictOf claims summary matched false

/-- The verdict, given what the check of a policy version came to, if one was made. -/
def conclude (device : Device) (claims : Claims) (summary : ManifestSummary) :
    Option (Version × MatrixVerdict) → Except Error Verdict
  | some (version, .incompatible) =>
    if claims.confirmTreble then .error (contradictedByMatrices version) else .ok .notTreble
  | some (_, .compatible) => device.judge claims summary true
  -- No check was made, or it decided nothing: only the properties can confirm Treble.
  | some (_, .indeterminate) | none => device.judge claims summary false

/-- The verdict on a device, given how the check against the framework matrices is made, with the
state of the engine before and after. -/
def detectBy {σ : Type} (device : Device)
    (ask : MatrixCheck → Engine σ → Version → σ → Except Engine.Error MatrixVerdict × σ)
    (engine : Engine σ) (state : σ) : Except Error Verdict × σ :=
  match device.claims with
  | .error error => (.error error, state)
  | .ok claims =>
    match device.manifestSummary with
    | .error error => (.error (.vintf error), state)
    | .ok summary =>
      match summary.sepolicyVersion with
      | none => (device.conclude claims summary none, state)
      | some version =>
        match ask (device.matrixCheck summary) engine version state with
        | (.error error, state) => (.error (.engine error), state)
        | (.ok verdict, state) =>
          (device.conclude claims summary (some (version, verdict)), state)

/-- The verdict on a device, with the state of the engine before and after. -/
def detect {σ : Type} (device : Device) (engine : Engine σ) (state : σ) :
    Except Error Verdict × σ :=
  device.detectBy MatrixCheck.run engine state

end Device

end Treble.Detection
