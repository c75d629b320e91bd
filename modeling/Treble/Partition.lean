import Treble.FileSystem
import Treble.Mount
import Treble.Property

/-!
# Partition layout

Two questions on the layout of a device: whether the system partition is mounted as the root of
the file system, and whether partitions are dynamic. The mount table is only looked at where the
properties leave the first question open.

## Main definitions

* `Partition.isSystemAsRoot` — the first question
* `Partition.searchMounts` — the search of a mount table for its answer
* `Partition.isDynamic?` — the second one
* `Mount.readTable` — the mount table at a path
-/

namespace Treble

namespace Mount

/-- The error for a mount table that cannot be read. -/
def unreadableTable (path : String) (cause : FileSystem.Cause) : Error :=
  .malformed
    (if cause = .notFound then "The host is not running Linux or procfs is broken"
      else "Failed to open and read the mount table")
    { source := some path, details := some cause.message }

/-- The mount table at a path. -/
def readTable (files : FileSystem) (path : String) : Except Error (List Entry) :=
  match files.readText path with
  | .error cause => .error (unreadableTable path cause)
  | .ok text => parse text

/-- Entries that show that the system partition is mounted as the root. -/
def Entry.showsSystemRoot (entry : Entry) : Bool :=
  (entry.device == "/dev/root" && entry.mountpoint == "/") ||
    (entry.mountpoint == "/system_root" && entry.fsType != "tmpfs")

/-- Entries of a system partition that is mounted on its own. -/
def Entry.isSystemPartition (entry : Entry) : Bool :=
  entry.mountpoint == "/system" && entry.fsType != "tmpfs" && entry.device != "none"

end Mount

namespace Partition

/-- Whether the properties say that the system partition is mounted as the root. -/
def claimsSystemAsRoot (properties : PropertyStore) : Bool :=
  properties.isTrue Property.dynamicPartitions || properties.isTrue Property.systemRootImage

/-- Goes through a mount table, given whether a system partition that is mounted on its own has been met.
The first entry that shows it mounted as the root ends the search; without one, it is mounted so
if no such partition is met. -/
def searchMounts (separate : Bool) : List Mount.Entry → Bool
  | [] => !separate
  | entry :: rest =>
    if entry.showsSystemRoot then true
    else searchMounts (separate || entry.isSystemPartition) rest

/-- Whether a mount table shows the system partition mounted as the root. -/
def showsSystemAsRoot (mounts : List Mount.Entry) : Bool := searchMounts false mounts

/-- Whether the system partition is mounted as the root. The source of the mount table is asked only
if the properties leave this open; its state tells how often that was. -/
def isSystemAsRoot {σ : Type} (properties : PropertyStore)
    (source : σ → Except Error (List Mount.Entry) × σ) (state : σ) : Except Error Bool × σ :=
  if claimsSystemAsRoot properties then (.ok true, state)
  else
    match source state with
    | (.error error, state) => (.error error, state)
    | (.ok mounts, state) => (.ok (showsSystemAsRoot mounts), state)

/-- Whether the device uses dynamic partitions; none if it does not say. -/
def isDynamic? (properties : PropertyStore) : Option Bool :=
  (properties Property.dynamicPartitions).map fun value => Property.parseFlag value == some true

end Partition

end Treble
