import Treble.Error
import Treble.Text.Blank
import Treble.Text.Cut
import Treble.Text.Decimal
import Treble.Text.Encoding
import Treble.Text.Quoted

/-!
# Mount tables

A mount table has one entry a line, of six fields with single spaces between them. Blank lines and
lines that begin with a space are passed over. A table is read as a whole or not at all: the first
line that is no entry makes the table malformed.

## Main definitions

* `Mount.Entry` — one entry
* `Mount.Fault` — why a line is no entry
* `Mount.Entry.ofLine` — the entry of a line
* `Mount.parse` — the entries of a table
* `Mount.Entry.line` — the line of an entry
-/

namespace Treble.Mount

open Text

/-- One entry of a mount table. -/
structure Entry where
  device : String
  mountpoint : String
  fsType : String
  options : List String
  dump : Int32
  pass : Int32
deriving DecidableEq

/-- Why a line is no entry. -/
inductive Fault where
  /-- There are not six fields. -/
  | fieldCount (count : Nat)
  /-- The fifth field is no number of 32 bits. -/
  | dump (field : String)
  /-- The sixth field is no number of 32 bits. -/
  | pass (field : String)
deriving DecidableEq, Repr

/-- What is wrong, in words. -/
def Fault.message : Fault → String
  | .fieldCount count => "expected 6 fields, got " ++ Decimal.text count
  | .dump field => "invalid dump field " ++ quoted field
  | .pass field => "invalid pass field " ++ quoted field

/-- The entry that six fields make. Of two bad numbers the first is blamed. -/
def Entry.ofFields : List (List Char) → Except Fault Entry
  | [device, mountpoint, fsType, options, dump, pass] =>
    match Decimal.int32? dump with
    | none => .error (.dump (String.ofList dump))
    | some dump =>
      match Decimal.int32? pass with
      | none => .error (.pass (String.ofList pass))
      | some pass =>
        .ok { device := String.ofList device
              mountpoint := String.ofList mountpoint
              fsType := String.ofList fsType
              options := (options.splitOn ',').map String.ofList
              dump := dump
              pass := pass }
  | fields => .error (.fieldCount fields.length)

/-- The entry of a line. -/
def Entry.ofLine (line : List Char) : Except Fault Entry := Entry.ofFields (line.splitOn ' ')

/-- The line of an entry. -/
def Entry.line (entry : Entry) : String :=
  " ".intercalate
    [entry.device, entry.mountpoint, entry.fsType, ",".intercalate entry.options,
      Decimal.signedText entry.dump.toInt, Decimal.signedText entry.pass.toInt]

/-- Lines that may hold an entry: those that are not blank and do not begin with a space. -/
def isRelevant (line : List Char) : Bool := !line.all isBlank && line.head? != some ' '

/-- The lines that may hold an entry, each with its number from one on. -/
def relevantLines (text : String) : List (Nat × List Char) :=
  ((lines text.toList).zipIdx 1).filterMap fun (line, number) =>
    if isRelevant line then some (number, line) else none

/-- The error for a line that is no entry. -/
def malformedLine (number : Nat) (fault : Fault) : Error :=
  .malformed "Incorrect /proc/mounts format"
    { field := some ("line " ++ Decimal.text number), details := some fault.message }

/-- The entry of a numbered line. -/
def Entry.ofNumberedLine (numbered : Nat × List Char) : Except Error Entry :=
  (Entry.ofLine numbered.2).mapError (malformedLine numbered.1)

/-- The entries of a mount table, in order. -/
def parse (text : String) : Except Error (List Entry) :=
  (relevantLines text).mapM Entry.ofNumberedLine

end Treble.Mount
