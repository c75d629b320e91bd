import Treble.Cli.Run

/-!
# What a run looks at

A run looks at few paths: the files that the options name, the files that a device documents, and
what is directly in three of its directories. Whoever gives a run its file system has to know what
stands at these paths only.

## Main definitions

* `Cli.Options.namedPaths` — the files that the options name
* `Detection.Device.filePaths`, `Detection.Device.directoryPaths` — the files and the directories
  of a device
* `Cli.classified?` — the device that a run classifies
-/

namespace Treble

namespace Detection.Device

open Vintf.DeviceRoot in
/-- The files of a device that detection looks for by name. -/
def filePaths (device : Device) : List String :=
  device.root.versionFile ::
    [vendorPlace device.vendorSku, odmPlace device.hardwareSku,
      odmFallbackPlace device.hardwareSku, legacyPlace, matrixPlace].map device.root.locate

open Vintf.DeviceRoot in
/-- The directories of a device whose files detection looks at. -/
def directoryPaths (device : Device) : List String :=
  device.root.policyDirectory :: [vendorFragmentPlace, odmFragmentPlace].map device.root.locate

end Detection.Device

namespace Cli

open Detection (Device)

/-- The files that options name, or that they leave at their defaults. -/
def Options.namedPaths (options : Options) : List String :=
  options.props.toList ++ [options.mounts.getD defaultMounts]

/-- The device that a run classifies, if its properties can be read. -/
def classified? (world : World) (options : Options) : Option Device :=
  (properties world options).toOption.map (device world (config world options))

end Cli

end Treble
