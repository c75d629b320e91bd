import Treble.Text.Blank
import Treble.Text.NameSet
import Treble.Version
import Treble.Vintf.Document
import Treble.Xml.Event

/-!
# Device manifests

Three facts are taken from a manifest: the greatest version in a `version` element directly below
a `sepolicy` element, the names of the `hal` elements whose transport is `passthrough`, and the
`target-level` attribute of a root element named `manifest`. Everything else is passed over.

The events of the document drive a scan that keeps the names of the open elements and the texts
it is collecting.

## Main definitions

* `Vintf.ManifestFacts` — the three facts
* `Vintf.ManifestScan` — the state of a scan
* `Vintf.ManifestScan.step` — what an event does to it
* `Vintf.ManifestFacts.ofReading` — the facts of a document
* `Vintf.ManifestFacts.ofFile` — the facts of a file
-/

namespace Treble.Vintf

open Text (NameSet)

/-- What a manifest says, as far as detection needs it. -/
structure ManifestFacts where
  /-- The greatest version of the vendor's SELinux policy. -/
  sepolicyVersion : Option Version
  /-- The names of the HALs that are served in the process of their client. -/
  passthroughHals : NameSet
  /-- The text of the attribute `target-level` of the root. -/
  targetLevel : Option String
deriving DecidableEq

/-- Whether a manifest says nothing. -/
def ManifestFacts.isEmpty (facts : ManifestFacts) : Bool :=
  facts.sepolicyVersion.isNone && facts.passthroughHals.isEmpty && facts.targetLevel.isNone

/-- What has been collected of a `hal` element. -/
structure HalEntry where
  name : String := ""
  transport : String := ""
deriving DecidableEq

/-- A HAL with a name that is served in the process of its client. -/
def HalEntry.isPassthrough (hal : HalEntry) : Bool :=
  hal.transport == "passthrough" && hal.name != ""

/-- The state of a scan. -/
structure ManifestScan where
  /-- The names of the open elements, the innermost first. -/
  opened : List String := []
  /-- The texts of the finished version elements. -/
  versions : List String := []
  /-- The text of the open version element. -/
  versionText : String := ""
  /-- The HAL that is being collected. -/
  hal : Option HalEntry := none
  passthroughHals : NameSet := ∅
  targetLevel : Option String := none
deriving DecidableEq

namespace ManifestScan

/-- The level after a start tag. The attribute is read on a root named `manifest`, and only as long
as no level is known. -/
def levelAfter (scan : ManifestScan) (tag : Xml.Tag) : Except Xml.Fault (Option String) :=
  if tag.name = "manifest" ∧ scan.opened = [] ∧ scan.targetLevel = none then
    tag.attribute? "target-level"
  else .ok scan.targetLevel

/-- An element begins. -/
def enter (scan : ManifestScan) (tag : Xml.Tag) : Except Xml.Fault ManifestScan :=
  (scan.levelAfter tag).map fun level =>
    { scan with
      opened := tag.name :: scan.opened
      targetLevel := level
      hal := if tag.name = "hal" then some {} else scan.hal }

/-- The passthrough HALs when a HAL has been collected. -/
def collect (scan : ManifestScan) : NameSet :=
  match scan.hal with
  | some hal =>
    if hal.isPassthrough then scan.passthroughHals.insert hal.name else scan.passthroughHals
  | none => scan.passthroughHals

/-- The innermost element ends. -/
def leave (scan : ManifestScan) : ManifestScan :=
  match scan.opened with
  | [] => scan
  | name :: outer =>
    -- The text is emptied only here, so that of a version nested in another one continues it.
    if name = "version" ∧ outer.head? = some "sepolicy" then
      { scan with
        opened := outer
        versions := scan.versionText :: scan.versions
        versionText := "" }
    else if name = "hal" then
      { scan with opened := outer, hal := none, passthroughHals := scan.collect }
    else { scan with opened := outer }

/-- A text without white space around it stands in the innermost element. -/
def addText (scan : ManifestScan) (content : String) : ManifestScan :=
  match scan.opened with
  | "version" :: "sepolicy" :: _ => { scan with versionText := scan.versionText ++ content }
  | "name" :: "hal" :: _ =>
    { scan with hal := scan.hal.map fun hal => { hal with name := hal.name ++ content } }
  | "transport" :: "hal" :: _ =>
    { scan with
      hal := scan.hal.map fun hal => { hal with transport := hal.transport ++ content } }
  | _ => scan

/-- What an event does to the scan. -/
def step (scan : ManifestScan) : Xml.Event → Except Xml.Fault ManifestScan
  | .opening tag => scan.enter tag
  | .empty tag => (scan.enter tag).map leave
  | .closing _ => .ok scan.leave
  | .text content => .ok (scan.addText (Text.trim content))

/-- The facts when all has been seen. -/
def facts (scan : ManifestScan) : ManifestFacts :=
  { sepolicyVersion := Version.best scan.versions
    passthroughHals := scan.passthroughHals
    targetLevel := scan.targetLevel }

end ManifestScan

namespace ManifestFacts

/-- The facts of a document. A fault ends the scan where it is met. -/
def ofReading (reading : Xml.Reading) : Except Xml.Fault ManifestFacts :=
  (reading.events.foldlM ManifestScan.step {}).bind fun scan =>
    match reading.fault with
    | some fault => .error fault
    | none => .ok scan.facts

/-- The facts of a document that came from a path. -/
def ofDocument (path document : String) : Except Error ManifestFacts :=
  (ofReading (Xml.read document)).mapError fun fault => .xml path fault.message none

/-- The facts of a manifest in memory. -/
def parse (document : String) : Except Error ManifestFacts :=
  ofDocument "<inline manifest>" document

/-- The facts of the manifest at a path. -/
def ofFile (files : FileSystem) (path : String) : Except Error ManifestFacts :=
  (readDocument files path).bind (ofDocument path)

end ManifestFacts

end Treble.Vintf
