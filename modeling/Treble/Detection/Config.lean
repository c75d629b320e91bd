import Treble.Detection.Detector
import Treble.Text.Quoted

/-!
# Configuration

A detector looks for a device below some directory and for its engine in some library. Both have
defaults, which two variables of the environment override.

## Main definitions

* `Detection.Config` — the directory and the library
* `Detection.Config.ofEnvironment` — the configuration that the environment gives
* `Detection.Config.text`, `Detection.Config.detectorText`, `Detection.Config.engineText` — the
  configuration, a detector and its engine in words
-/

namespace Treble.Detection

/-- Where a detector looks. -/
structure Config where
  /-- The directory that holds the partitions of the device. -/
  root : String := "/"
  /-- The path or name of the library of the native engine. -/
  engineLibrary : String := "libtrebledetector.so"
deriving DecidableEq, Repr, Inhabited

namespace Config

/-- The variable that overrides the directory. -/
def rootVariable : String := "TREBLE_CHECK_ROOT"

/-- The variable that overrides the library. -/
def engineVariable : String := "TREBLE_CHECK_ENGINE_LIB"

/-- The value of a variable, unless it is empty. -/
def valueOf (environment : String → Option String) (variableName : String) : Option String :=
  (environment variableName).filter (· != "")

/-- The defaults, overridden by the environment. -/
def ofEnvironment (environment : String → Option String) : Config :=
  let config : Config := {}
  { root := (valueOf environment rootVariable).getD config.root
    engineLibrary := (valueOf environment engineVariable).getD config.engineLibrary }

/-- The configuration with another directory. -/
def withRoot (config : Config) (root : String) : Config := { config with root := root }

/-- Whether a configuration names the same places as the defaults. -/
def isDefault (config : Config) : Bool :=
  let defaults : Config := {}
  FileSystem.samePath config.root defaults.root &&
    FileSystem.samePath config.engineLibrary defaults.engineLibrary

/-- The configuration in words. -/
def text (config : Config) : String :=
  "DetectorConfig \x7b root: " ++ Text.quoted config.root ++ ", engine_library: " ++
    Text.quoted config.engineLibrary ++ " \x7d"

/-- The detector of a configuration in words. -/
def detectorText (config : Config) : String :=
  "TrebleDetector \x7b config: " ++ config.text ++ ", .. \x7d"

/-- The native engine of a configuration in words. -/
def engineText (config : Config) (bound : Bool) : String :=
  "NativeEngine \x7b library: " ++ Text.quoted config.engineLibrary ++ ", bound: " ++
    (if bound then "true" else "false") ++ " \x7d"

end Config

end Treble.Detection
