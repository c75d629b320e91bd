import Treble.Text.Blank
import Treble.Version
import Treble.Vintf.Document
import Treble.Xml.Event

/-!
# Compatibility matrices

One fact is taken from a vendor's matrix: the greatest version in the first `vendor-ndk` element.
The scan is over when that element ends, and nothing behind it is looked at.

## Main definitions

* `Vintf.MatrixFacts` — the fact
* `Vintf.MatrixScan` — the state of a scan
* `Vintf.MatrixScan.step` — what an event does to it
* `Vintf.MatrixFacts.ofReading` — the facts of a document
* `Vintf.MatrixFacts.ofFile` — the facts of a file
-/

namespace Treble.Vintf

/-- What a matrix says, as far as detection needs it. -/
structure MatrixFacts where
  /-- The greatest version in the first `vendor-ndk` element. -/
  vendorNdkVersion : Option Version
deriving DecidableEq

/-- The state of a scan. -/
structure MatrixScan where
  /-- A `vendor-ndk` element has begun. -/
  inVendorNdk : Bool := false
  /-- A `version` element in it is open. -/
  inVersion : Bool := false
  /-- The text of the open version element. -/
  versionText : String := ""
  /-- The texts of the finished version elements. -/
  versions : List String := []
  /-- The `vendor-ndk` element has ended. -/
  done : Bool := false
deriving DecidableEq

namespace MatrixScan

/-- An element begins. -/
def enter (scan : MatrixScan) (name : String) : MatrixScan :=
  if name = "vendor-ndk" then { scan with inVendorNdk := true }
  else if name = "version" ∧ scan.inVendorNdk then { scan with inVersion := true }
  else scan

/-- An element ends. -/
def leave (scan : MatrixScan) (name : String) : MatrixScan :=
  if scan.inVersion ∧ name = "version" then
    { scan with
      inVersion := false
      versions := scan.versionText :: scan.versions
      versionText := "" }
  else if scan.inVendorNdk ∧ name = "vendor-ndk" then { scan with done := true }
  else scan

/-- A text without white space around it stands in the innermost element. -/
def addText (scan : MatrixScan) (content : String) : MatrixScan :=
  if scan.inVersion then { scan with versionText := scan.versionText ++ content } else scan

/-- What an event does to the scan. When it is over, nothing. -/
def step (scan : MatrixScan) (event : Xml.Event) : MatrixScan :=
  if scan.done then scan
  else
    match event with
    | .opening tag => scan.enter tag.name
    | .empty tag => (scan.enter tag.name).leave tag.name
    | .closing name => scan.leave name
    | .text content => scan.addText (Text.trim content)

/-- The facts when the scan is over. -/
def facts (scan : MatrixScan) : MatrixFacts := { vendorNdkVersion := Version.best scan.versions }

end MatrixScan

namespace MatrixFacts

/-- The facts of a document. A fault counts only if the scan is not over before it. -/
def ofReading (reading : Xml.Reading) : Except Xml.Fault MatrixFacts :=
  let scan := reading.events.foldl MatrixScan.step {}
  match reading.fault with
  -- All events come before the fault, so a scan that is over was over before it.
  | some fault => if scan.done then .ok scan.facts else .error fault
  | none => .ok scan.facts

/-- The facts of a document that came from a path. -/
def ofDocument (path document : String) : Except Error MatrixFacts :=
  (ofReading (Xml.read document)).mapError fun fault => .xml path fault.message none

/-- The facts of a matrix in memory. -/
def parse (document : String) : Except Error MatrixFacts := ofDocument "<inline matrix>" document

/-- The facts of the matrix at a path. -/
def ofFile (files : FileSystem) (path : String) : Except Error MatrixFacts :=
  (readDocument files path).bind (ofDocument path)

end MatrixFacts

end Treble.Vintf
