import Treble.Text.Encoding
import Treble.Text.NameSet

/-!
# File systems

Detection reads files by path. All that a path can show is whether it leads anywhere, whether a
file or a directory stands there, and what can be read of it, so a file system is the function
that gives this for every path. It does not change while a query runs.

## Main definitions

* `FileSystem.Cause` — why a path leads nowhere, or what stands there can be neither read nor made
* `FileSystem.Entry` — what stands at a path
* `FileSystem` — the entry, or the cause, of every path
* `FileSystem.read`, `FileSystem.names` — the content of a file, the names in a directory
* `FileSystem.join` — the path of a name below another path
* `FileSystem.samePath` — whether two paths name the same place
-/

namespace Treble

/-- Why a path leads nowhere, or what stands there can be neither read nor made. -/
inductive FileSystem.Cause where
  | notFound
  | permissionDenied
  | alreadyExists
  | notADirectory
  | isADirectory
  | nameTooLong
  /-- The path has a character that no name can have. -/
  | nulInName
  /-- Any other reason, in the words of the operating system. -/
  | other (reason : String)
deriving DecidableEq, Repr

/-- A cause in the words of the operating system. -/
def FileSystem.Cause.message : FileSystem.Cause → String
  | .notFound => "No such file or directory (os error 2)"
  | .permissionDenied => "Permission denied (os error 13)"
  | .alreadyExists => "File exists (os error 17)"
  | .notADirectory => "Not a directory (os error 20)"
  | .isADirectory => "Is a directory (os error 21)"
  | .nameTooLong => "File name too long (os error 36)"
  | .nulInName => "file name contained an unexpected NUL byte"
  | .other reason => reason

/-- What stands at a path. -/
inductive FileSystem.Entry where
  /-- A regular file, with its bytes if it can be opened. -/
  | file (content : Except FileSystem.Cause (List UInt8))
  /-- A directory, with the names in it if it can be opened. -/
  | directory (names : Except FileSystem.Cause Text.NameSet)

/-- What stands at every path. -/
abbrev FileSystem := String → Except FileSystem.Cause FileSystem.Entry

namespace FileSystem

/-- Whether an entry can be opened, be it a file or a directory. -/
def Entry.opens : Entry → Bool
  | .file content => content.isOk
  | .directory names => names.isOk

/-- Whether an entry is a regular file. -/
def Entry.isFile : Entry → Bool
  | .file _ => true
  | .directory _ => false

/-- The bytes of an entry. A directory that opens has none to read. -/
def Entry.content : Entry → Except Cause (List UInt8)
  | .file content => content
  | .directory (.ok _) => .error .isADirectory
  | .directory (.error cause) => .error cause

/-- Whether a path leads anywhere. -/
def leadsTo (files : FileSystem) (path : String) : Bool := (files path).isOk

/-- Whether what stands at a path can be opened. -/
def opens (files : FileSystem) (path : String) : Bool :=
  match files path with
  | .ok entry => entry.opens
  | .error _ => false

/-- Whether a regular file stands at a path. -/
def isFile (files : FileSystem) (path : String) : Bool :=
  match files path with
  | .ok entry => entry.isFile
  | .error _ => false

/-- The bytes of the file at a path. -/
def read (files : FileSystem) (path : String) : Except Cause (List UInt8) :=
  (files path).bind Entry.content

/-- The names in the directory at a path, in ascending order; none if it cannot be listed. -/
def names (files : FileSystem) (path : String) : List String :=
  match files path with
  | .ok (.directory (.ok names)) => names.toList
  | _ => []

/-- The path of a name below another path. -/
def join (path name : String) : String :=
  match path.toList.getLast? with
  | none | some '/' => path ++ name
  | some _ => path ++ "/" ++ name

/-- The names of a path. Empty names and single dots say nothing, save a dot in front of a path that
does not begin at the root. -/
def parts (path : String) : List String :=
  match (path.toList.splitOn '/').map String.ofList with
  | "" :: rest => rest.filter fun name => name != "" && name != "."
  | first :: rest => first :: rest.filter fun name => name != "" && name != "."
  | [] => []

/-- Whether two paths name the same place without looking at any file. -/
def samePath (left right : String) : Bool :=
  (left.toList.head? == some '/') == (right.toList.head? == some '/') && parts left == parts right

/-- The regular files directly in a directory, in ascending order of their names. -/
def filesIn (files : FileSystem) (directory : String) : List String :=
  ((files.names directory).map (join directory)).filter files.isFile

/-- The text of a file that must be valid UTF-8, or why there is none. -/
def readText (files : FileSystem) (path : String) : Except Cause String :=
  (files.read path).bind fun bytes =>
    match Text.Utf8.strict? bytes with
    | some text => .ok (String.ofList text)
    | none => .error (.other "stream did not contain valid UTF-8")

end FileSystem

end Treble
