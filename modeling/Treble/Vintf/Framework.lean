import Treble.Text.Cut
import Treble.Version
import Treble.Vintf.Error

/-!
# Framework matrices

The framework's side of the agreement: for each level a matrix of the HALs that the framework
uses. Eight of them are bundled, the oldest without a number. A matrix says nothing about the
SELinux policy; before a device is compared with it, the policy version of the device is put in
front of its last end tag.

## Main definitions

* `Vintf.HalRequirement` — a HAL that the framework uses
* `Vintf.FrameworkMatrix` — a matrix and its level
* `Vintf.FrameworkMatrix.bundled` — the bundled matrices, in the order in which they are tried
* `Vintf.injectSepolicy` — a matrix with a policy version in it
-/

namespace Treble.Vintf

open Text

/-- A HAL that the framework uses. -/
structure HalRequirement where
  name : String
  /-- The version, or a version with a range of minor numbers. -/
  version : String
  interface : String
  service : String := "default"
  /-- A device may do without it. -/
  optional : Bool := true
deriving DecidableEq

/-- A requirement as an element of a matrix. -/
def HalRequirement.text (hal : HalRequirement) : String :=
  "    <hal format=\"hidl\" optional=\"" ++ (if hal.optional then "true" else "false") ++ "\">\n" ++
  "        <name>" ++ hal.name ++ "</name>\n" ++
  "        <version>" ++ hal.version ++ "</version>\n" ++
  "        <interface>\n" ++
  "            <name>" ++ hal.interface ++ "</name>\n" ++
  "            <instance>" ++ hal.service ++ "</instance>\n" ++
  "        </interface>\n" ++
  "    </hal>\n"

/-- A framework matrix. -/
structure FrameworkMatrix where
  name : String
  /-- The level of the framework; the one without a number is zero. -/
  level : Nat
  content : String
deriving DecidableEq

/-- The end tag in front of which a policy version goes. -/
def closingTag : String := "</compatibility-matrix>"

/-- A policy version as an element of a matrix. -/
def sepolicyBlock (version : Version) : String :=
  "<sepolicy><kernel-sepolicy-version>0</kernel-sepolicy-version><sepolicy-version>" ++
    version.text ++ "</sepolicy-version></sepolicy>"

/-- A matrix with a policy version in front of its last end tag, if it has one. -/
def injectSepolicy (matrix : String) (version : Version) : Option String :=
  (cutLast closingTag.toList matrix.toList).map fun (before, after) =>
    String.ofList before ++ sepolicyBlock version ++ closingTag ++ String.ofList after

namespace FrameworkMatrix

/-- The service that hands out shared memory, which every framework needs. -/
def sharedMemory : HalRequirement :=
  { name := "android.hidl.allocator", version := "1.0", interface := "IAllocator"
    service := "ashmem", optional := false }

/-- The service that hands out graphics buffers. -/
def graphicsAllocator (version : String) : HalRequirement :=
  { name := "android.hardware.graphics.allocator", version := version, interface := "IAllocator" }

/-- The service that puts the layers of the screen together. -/
def graphicsComposer (version : String) : HalRequirement :=
  { name := "android.hardware.graphics.composer", version := version, interface := "IComposer" }

/-- The service that takes hints on power. -/
def power (version : String) : HalRequirement :=
  { name := "android.hardware.power", version := version, interface := "IPower" }

/-- The service that reports on the battery. -/
def health (version : String) : HalRequirement :=
  { name := "android.hardware.health", version := version, interface := "IHealth" }

/-- The matrix of a level that is written in some way. -/
def ofHals (level : Nat) (label : String) (hals : List HalRequirement) : FrameworkMatrix :=
  { name := "compatibility_matrix." ++ label ++ ".xml"
    level := level
    content :=
      "<compatibility-matrix version=\"1.0\" type=\"framework\" level=\"" ++ label ++ "\">\n" ++
      String.join (hals.map HalRequirement.text) ++
      "    <avb>\n        <vbmeta-version>1.0</vbmeta-version>\n    </avb>\n" ++
      closingTag ++ "\n" }

/-- The bundled matrices, in the order in which they are tried. -/
def bundled : List FrameworkMatrix :=
  [ofHals 0 "legacy"
      [sharedMemory, graphicsAllocator "2.0", graphicsComposer "2.1", power "1.0"],
    ofHals 1 "1" [sharedMemory, graphicsAllocator "2.0", graphicsComposer "2.1", power "1.0"],
    ofHals 2 "2" [sharedMemory, graphicsAllocator "2.0", graphicsComposer "2.1-2", power "1.0-2"],
    ofHals 3 "3" [sharedMemory, graphicsAllocator "2.0-3", graphicsComposer "2.1-3", power "1.0-3"],
    ofHals 4 "4" [sharedMemory, graphicsAllocator "2.0-3", graphicsComposer "2.1-4", power "1.0-3"],
    ofHals 5 "5" [sharedMemory, graphicsAllocator "2.0-4", graphicsComposer "2.1-4", health "2.1"],
    ofHals 6 "6" [sharedMemory, graphicsAllocator "2.0-4", graphicsComposer "2.1-4", health "2.1"],
    ofHals 7 "7" [sharedMemory, graphicsAllocator "4.0", graphicsComposer "2.1-4", health "2.1"]]

/-- The highest level for which there is a matrix. -/
def maxLevel : Nat := 7

/-- The text of a matrix with a policy version in it. -/
def withSepolicy (matrix : FrameworkMatrix) (version : Version) : Except Error String :=
  match injectSepolicy matrix.content version with
  | some text => .ok text
  | none => .error (.missingClosingTag matrix.name)

end FrameworkMatrix

end Treble.Vintf
