import Treble.Text.NameSet

/-!
# Compliance of passthrough HALs

On a fully compliant device every HAL of the platform, save two, runs in a process of its own.
A device that was upgraded may keep others in the process of their client, but eight of them had
to move out even then. HALs of the vendor do not count.

## Main definitions

* `Detection.Compliance` — how well a device does
* `Detection.compliance` — how well a set of passthrough HALs does
-/

namespace Treble.Detection

open Text (NameSet)

/-- How well the passthrough HALs of a device fit the rules. -/
inductive Compliance where
  | full
  | upgrade
  | none
deriving DecidableEq, Repr

/-- The HALs of the platform that may always stay. -/
def allowedPassthroughs : List String :=
  ["android.hardware.graphics.mapper", "android.hardware.renderscript"]

/-- The HALs of the platform that must have moved out even on an upgraded device. -/
def requiredBinderized : List String :=
  ["android.hardware.biometrics.fingerprint", "android.hardware.configstore",
    "android.hardware.dumpstate", "android.hardware.graphics.allocator",
    "android.hardware.radio", "android.hardware.usb", "android.hardware.wifi",
    "android.hardware.wifi.supplicant"]

/-- Whether a HAL is one of the platform. -/
def isPlatformHal (name : String) : Bool := "android.".toList.isPrefixOf name.toList

/-- Whether a passthrough HAL keeps a device from full compliance. -/
def isDisallowed (name : String) : Bool := isPlatformHal name && !allowedPassthroughs.contains name

/-- Whether a passthrough HAL keeps a device from any compliance. -/
def isForbidden (name : String) : Bool := isPlatformHal name && requiredBinderized.contains name

/-- How well a set of passthrough HALs fits the rules. -/
def compliance (hals : NameSet) : Compliance :=
  if !hals.toList.any isDisallowed then .full
  else if !hals.toList.any isForbidden then .upgrade
  else .none

end Treble.Detection
