import Treble.Cli.Failure
import Treble.Cli.Json
import Treble.Cli.Options
import Treble.Detection.Config
import Treble.Engine.Native
import Treble.Partition
import Treble.Property.Dump

/-!
# The command line

A run of the program is a function of its surroundings: the files, the variables of the
environment, the listing of the property service and the libraries that can be loaded. What it
writes and how it ends is its output.

## Main definitions

* `Cli.World` — the surroundings
* `Cli.Output` — what a run writes and how it ends
* `Cli.properties` — the properties that the options ask for
* `Cli.run` — the output for a list of arguments
-/

namespace Treble.Cli

open Detection (Config Device Verdict)

/-- What the property service prints and how it ends. -/
structure Listing where
  content : List UInt8
  exit : Int
deriving DecidableEq

/-- The surroundings of a run. -/
structure World where
  files : FileSystem
  environment : String → Option String
  /-- None where there is no property service. -/
  listing : Option Listing
  library : String → Engine.Library Unit

/-- What a run writes and how it ends. -/
structure Output where
  exit : Nat := 0
  stdout : String := ""
  stderr : String := ""
deriving DecidableEq, Repr

/-- The output of a failed command. -/
def Output.ofFailure (failure : Failure) : Output := { exit := 1, stderr := failure.report }

/-- The output of a command that writes one text. -/
def Output.ofText (text : String) : Output := { stdout := text ++ "\n" }

/-- How the program is used. -/
def usage : String :=
  "treble-check: Treble 支持检测工具\n" ++
  "\n" ++
  "USAGE:\n" ++
  "    treble-check <COMMAND> [OPTIONS]\n" ++
  "\n" ++
  "COMMANDS:\n" ++
  "    detect      Classify the device's Treble support\n" ++
  "    sar         Report system-as-root and dynamic partitions\n" ++
  "    version     Show version information\n" ++
  "    help        Show this help message\n" ++
  "\n" ++
  "OPTIONS:\n" ++
  "    --root <dir>        Device root holding vendor/ and odm/ (default /)\n" ++
  "    --props <file>      Read properties from a build.prop or getprop dump\n" ++
  "                        instead of running getprop\n" ++
  "    --engine <lib>      Native compatibility engine library\n" ++
  "    --mounts <file>     Mount table to inspect (default /proc/mounts)\n" ++
  "    --json              Print the verdict as JSON\n" ++
  "    -v, --verbose       Debug logging (RUST_LOG takes precedence)\n" ++
  "\n" ++
  "ENVIRONMENT:\n" ++
  "    TREBLE_CHECK_ROOT           Default for --root\n" ++
  "    TREBLE_CHECK_ENGINE_LIB     Default for --engine"

/-- The name and version of the program. -/
def versionLine : String := "treble-check 0.1.0"

/-- The mount table that is inspected by default. -/
def defaultMounts : String := "/proc/mounts"

/-- The properties that the property service lists; none if it is not there or fails. -/
def listedProperties (world : World) : Properties :=
  match world.listing with
  | none => ∅
  | some listing =>
    if listing.exit = 0 then
      Properties.ofListing (String.ofList (Text.Utf8.lossy listing.content))
    else ∅

/-- The properties that the options ask for. -/
def properties (world : World) (options : Options) : Except Failure Properties :=
  match options.props with
  | none => .ok (listedProperties world)
  | some path =>
    match world.files.readText path with
    | .ok text => .ok (Properties.ofDump text)
    | .error cause =>
      .error { message := "Cannot read properties from " ++ path, causes := [cause.message] }

/-- The configuration that the environment and the options give. -/
def config (world : World) (options : Options) : Config :=
  let config := Config.ofEnvironment world.environment
  { root := options.root.getD config.root
    engineLibrary := options.engine.getD config.engineLibrary }

/-- The device that a configuration and properties describe. -/
def device (world : World) (config : Config) (properties : Properties) : Device :=
  { properties := properties.store, root := { path := config.root, files := world.files } }

/-- The verdict on the device that a configuration and properties describe. -/
def verdict (world : World) (config : Config) (properties : Properties) : Except Error Verdict :=
  ((device world config properties).detect
    (Engine.native (world.library config.engineLibrary)) (.unbound ())).1

/-- The failure of a detection that gives no verdict. -/
def undetermined (error : Error) : Failure :=
  { message := "Treble support could not be determined", causes := error.chain }

/-- The output for the result of a detection. -/
def detectOutput (json : Bool) (result : Except Error Verdict) : Output :=
  if json then
    match result with
    | .ok verdict => .ofText (Json.ofVerdict verdict).pretty
    | .error error => { Output.ofText (Json.ofError error.message).pretty with exit := 2 }
  else
    match result with
    | .ok verdict => .ofText verdict.text
    | .error error => .ofFailure (undetermined error)

/-- The command that classifies a device. -/
def detect (world : World) (options : Options) : Output :=
  match properties world options with
  | .error failure => .ofFailure failure
  | .ok properties =>
    detectOutput options.json (verdict world (config world options) properties)

/-- The output for what is known of the partition layout. -/
def layoutOutput (json systemAsRoot : Bool) (dynamic : Option Bool) : Output :=
  if json then .ofText (Json.ofLayout systemAsRoot dynamic).pretty
  else
    .ofText <|
      "System-as-root: " ++ (if systemAsRoot then "yes" else "no") ++ "\nDynamic partitions: " ++
        match dynamic with
        | some true => "yes"
        | some false => "no"
        | none => "unknown"

/-- The command that reports on the partition layout. -/
def layout (world : World) (options : Options) : Output :=
  match properties world options with
  | .error failure => .ofFailure failure
  | .ok properties =>
    let source (_ : Unit) :=
      (Mount.readTable world.files (options.mounts.getD defaultMounts), ())
    match (Partition.isSystemAsRoot properties.store source ()).1 with
    | .error error => .ofFailure (.ofError error)
    | .ok systemAsRoot =>
      layoutOutput options.json systemAsRoot (Partition.isDynamic? properties.store)

/-- The output of a command with options. -/
def withOptions (command : Options → Output) (arguments : List String) : Output :=
  match Options.parse arguments with
  | .error fault => .ofFailure { message := fault.message }
  | .ok options => command options

/-- The output for the arguments of the program. -/
def run (world : World) (arguments : List String) : Output :=
  match arguments with
  | [] => { Output.ofText usage with exit := 1 }
  | "detect" :: rest => withOptions (detect world) rest
  | "sar" :: rest => withOptions (layout world) rest
  | "version" :: _ | "--version" :: _ | "-V" :: _ => .ofText versionLine
  | "help" :: _ | "--help" :: _ | "-h" :: _ => .ofText usage
  | command :: _ =>
    { exit := 1, stdout := usage ++ "\n", stderr := "Unknown command: " ++ command ++ "\n\n" }

end Treble.Cli
