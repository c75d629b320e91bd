import Treble.FileSystem

/-!
# File trees

A file tree in memory holds files and directories by their place below its root and can be seen as
a file system. Paths are followed name by name from the root or, if they do not begin with a
slash, from a working directory. An empty name stays in the directory it is met in, a single dot
does so if the directory may be searched, two dots lead back, and any other name leads on.

The right to open or search belongs to what stands at a place and not to the place: writing to a
file does not change it, and what is made after a removal has it again.

## Main definitions

* `FileTree` — files and directories by place
* `FileTree.write`, `FileTree.makeDirectory`, `FileTree.remove` — making and removing
* `FileTree.conceal`, `FileTree.reveal` — taking the right to open or search, and giving it back
* `FileTree.follow` — the place to which a path leads
* `FileTree.fileSystem` — a tree as a file system
-/

namespace Treble

open FileSystem (Cause Entry)

/-- The names that lead from the root to a place. -/
abbrev FileTree.Place := List String

/-- A file or a directory. -/
inductive FileTree.Node where
  | file (content : List UInt8)
  | directory
deriving DecidableEq

/-- Files and directories by their place. The root is always a directory. -/
structure FileTree where
  nodes : List (FileTree.Place × FileTree.Node) := []
  /-- The places that may not be opened or searched. -/
  concealed : List FileTree.Place := []

namespace FileTree

/-- What stands at a place. -/
def node? (tree : FileTree) (place : Place) : Option Node :=
  match place with
  | [] => some .directory
  | _ => tree.nodes.lookup place

/-- Puts a node at a place, instead of what stood there. -/
def put (tree : FileTree) (place : Place) (node : Node) : FileTree :=
  { tree with nodes := (place, node) :: tree.nodes.filter fun entry => entry.1 != place }

/-- The longest name, in bytes. -/
def maxNameSize : Nat := 255

/-- The longest path, in bytes. -/
def maxPathSize : Nat := 4095

/-- Why nothing can be put at a place because of the names that lead there. -/
def Place.fault? (place : Place) : Option Cause :=
  if place.any fun name => name.toList.contains '\x00' then some .nulInName
  else if place.any fun name => maxNameSize < Text.Utf8.size name.toList then some .nameTooLong
  else none

/-- The places above a place, from the root on. -/
def Place.above (place : Place) : List Place := (List.range place.length).map place.take

/-- Whether one of two places is at or above the other. -/
def Place.overlaps (place other : Place) : Bool :=
  place.isPrefixOf other || other.isPrefixOf place

/-- Makes a directory at a place unless there is one already. -/
def ensureDirectory (tree : FileTree) (place : Place) : Except Cause FileTree :=
  match tree.node? place with
  | none => .ok (tree.put place .directory)
  | some .directory => .ok tree
  | some (.file _) => .error .alreadyExists

/-- Whether a file stands at a place. -/
def isFileAt (tree : FileTree) (place : Place) : Bool :=
  match tree.node? place with
  | some (.file _) => true
  | _ => false

/-- Makes a directory and those above it. Nothing can be made below a file. -/
def makeDirectory (tree : FileTree) (place : Place) : Except Cause FileTree :=
  match place.fault? with
  | some cause => .error cause
  | none =>
    if place.above.any tree.isFileAt then .error .notADirectory
    else (place.above ++ [place]).foldlM ensureDirectory tree

/-- Writes a file, making the directories above it. A file that is there already keeps its rights,
and a directory is not replaced. -/
def write (tree : FileTree) (place : Place) (content : List UInt8) : Except Cause FileTree :=
  match place.fault? with
  | some cause => .error cause
  | none =>
    (tree.makeDirectory place.dropLast).bind fun tree =>
      match tree.node? place with
      | some .directory => .error .isADirectory
      | _ => .ok (tree.put place (.file content))

/-- Takes away the right to open or search what stands at a place. -/
def conceal (tree : FileTree) (place : Place) : Except Cause FileTree :=
  if (tree.node? place).isSome then .ok { tree with concealed := place :: tree.concealed }
  else .error .notFound

/-- Gives the right back. -/
def reveal (tree : FileTree) (place : Place) : Except Cause FileTree :=
  if (tree.node? place).isSome then
    .ok { tree with concealed := tree.concealed.filter (· != place) }
  else .error .notFound

/-- Whether what stands at a place may be opened and searched. -/
def isOpen (tree : FileTree) (place : Place) : Bool := !tree.concealed.contains place

/-- Whether a place lies on the way to a directory that may not be searched, or at or below one.
Such a directory cannot be emptied, so nothing there can be removed. -/
def isHeld (tree : FileTree) (place : Place) : Bool :=
  tree.nodes.any fun (other, node) =>
    node == .directory && !tree.isOpen other && place.overlaps other

/-- Removes what stands at a place and below it, as far as it is not held. The rights go with it. -/
def remove (tree : FileTree) (place : Place) : FileTree :=
  let stays : Place → Bool := fun other => !place.isPrefixOf other || tree.isHeld other
  { nodes := tree.nodes.filter fun entry => stays entry.1
    concealed := tree.concealed.filter stays }

/-- The names of what stands directly below a place. -/
def namesAt (tree : FileTree) (place : Place) : Text.NameSet :=
  Text.NameSet.ofList <| tree.nodes.filterMap fun entry =>
    if entry.1.dropLast = place then entry.1.getLast? else none

/-- The names of a path, in order. -/
def pathNames (path : String) : List String :=
  (path.toList.splitOn '/').map String.ofList

/-- The place below the root that a relative path without dots names. -/
def placeOf (path : String) : Place :=
  (pathNames path).filter fun name => name != "" && name != "."

/-- One name further from a place. -/
def step (tree : FileTree) (place : Place) (name : String) : Except Cause Place :=
  match tree.node? place with
  | none => .error .notFound
  | some (.file _) => .error .notADirectory
  | some .directory =>
    -- Slashes in a row and one at the end ask for a directory but do not search it.
    if name = "" then .ok place
    else if !tree.isOpen place then .error .permissionDenied
    else if name = "." then .ok place
    else if name = ".." then .ok place.dropLast
    else if maxNameSize < Text.Utf8.size name.toList then .error .nameTooLong
    else if (tree.node? (place ++ [name])).isSome then .ok (place ++ [name])
    else .error .notFound

/-- The place to which a path leads from a working directory. -/
def follow (tree : FileTree) (workingDirectory : Place) (path : String) : Except Cause Place :=
  if path.toList.contains '\x00' then .error .nulInName
  else if path = "" then .error .notFound
  else if maxPathSize < Text.Utf8.size path.toList then .error .nameTooLong
  else
    (pathNames path).foldlM tree.step
      (if path.toList.head? = some '/' then [] else workingDirectory)

/-- What stands at a place, as far as it may be opened. -/
def entryAt (tree : FileTree) (place : Place) : Except Cause Entry :=
  match tree.node? place with
  | none => .error .notFound
  | some (.file content) =>
    .ok (.file (if tree.isOpen place then .ok content else .error .permissionDenied))
  | some .directory =>
    .ok (.directory
      (if tree.isOpen place then .ok (tree.namesAt place) else .error .permissionDenied))

/-- The tree as a file system, seen from a working directory. -/
def fileSystem (tree : FileTree) (workingDirectory : Place) : FileSystem := fun path =>
  (tree.follow workingDirectory path).bind tree.entryAt

end FileTree

end Treble
