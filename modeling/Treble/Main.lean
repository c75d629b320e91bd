import Treble.Cli.Places

/-!
# The program

Takes down what stands at the paths that a run looks at, runs the command line on that, and writes
its output. There is no property service to ask and no library is loaded, so a device is classified
from a dump of its properties and from its files.

## Main definitions

* `Program.entry` — what stands at a path of the operating system
* `Program.observed` — the file system of the paths that were looked at
* `main` — the program
-/

namespace Treble.Program

open FileSystem (Cause Entry)
open Cli (Options World)

/-- The number of an error, which some calls report as a negative one. -/
def errorNumber (code : UInt32) : UInt32 := if code < 0x80000000 then code else -code

/-- The cause that an error of the operating system stands for. -/
def cause (error : IO.Error) : Cause :=
  match error with
  | .noFileOrDirectory .. => .notFound
  | .permissionDenied .. => .permissionDenied
  | .inappropriateType _ code _ =>
    if errorNumber code = 20 then .notADirectory
    else if errorNumber code = 21 then .isADirectory
    else .other (toString error)
  | .invalidArgument _ code _ =>
    if errorNumber code = 36 then .nameTooLong else .other (toString error)
  | _ => .other (toString error)

/-- The result of an action, or the cause of its failure. -/
def attempt {α : Type} (action : IO α) : IO (Except Cause α) := do
  match ← action.toBaseIO with
  | .ok result => return .ok result
  | .error error => return .error (cause error)

/-- What stands at a path. -/
def entry (path : String) : IO (Except Cause Entry) := do
  if path.toList.contains '\x00' then return .error .nulInName
  if path = "" then return .error .notFound
  attempt do
    let place := (← IO.currentDir) / path
    match (← place.metadata).type with
    | .dir =>
      let names ← attempt place.readDir
      return .directory (names.map fun found =>
        Text.NameSet.ofList (found.toList.map IO.FS.DirEntry.fileName))
    | _ => return .file ((← attempt (IO.FS.readBinFile place)).map ByteArray.toList)

/-- The file system of the paths that were looked at. -/
def observed (entries : List (String × Except Cause Entry)) : FileSystem := fun path =>
  (entries.lookup path).getD (.error .notFound)

/-- What stands at some paths. -/
def entries (paths : List String) : IO (List (String × Except Cause Entry)) :=
  paths.mapM fun path => return (path, ← entry path)

/-- What stands directly in some directories, and the directories themselves. -/
def listed (directories : List String) : IO (List (String × Except Cause Entry)) := do
  let found ← entries directories
  let inside ← entries <| directories.flatMap fun directory =>
    (FileSystem.names (observed found) directory).map (FileSystem.join directory)
  return found ++ inside

/-- The surroundings of a run that looks at some entries. -/
def world (environment : String → Option String)
    (entries : List (String × Except Cause Entry)) : World :=
  { files := observed entries
    environment := environment
    listing := none
    library := fun _ => .missing }

/-- The variables of the environment that a run looks at. -/
def environment : IO (String → Option String) := do
  let root ← IO.getEnv Detection.Config.rootVariable
  let engine ← IO.getEnv Detection.Config.engineVariable
  return fun variableName =>
    if variableName = Detection.Config.rootVariable then root
    else if variableName = Detection.Config.engineVariable then engine
    else none

/-- The surroundings of a run with some options. -/
def surroundings (options : Options) : IO World := do
  let environment ← environment
  let named ← entries options.namedPaths
  match Cli.classified? (world environment named) options with
  | none => return world environment named
  | some device =>
    let files ← entries device.filePaths
    let inside ← listed device.directoryPaths
    return world environment (named ++ files ++ inside)

end Treble.Program

open Treble in
/-- Runs the command line in its surroundings. -/
def main (arguments : List String) : IO UInt32 := do
  let options := (Cli.Options.parse (arguments.drop 1)).toOption.getD {}
  let output := Cli.run (← Program.surroundings options) arguments
  IO.eprint output.stderr
  IO.print output.stdout
  return output.exit.toUInt32
