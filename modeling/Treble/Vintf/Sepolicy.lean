import Treble.Text.Cut
import Treble.Text.Decimal
import Treble.Text.Encoding
import Treble.Text.Pattern
import Treble.Version
import Treble.Vintf.Error
import Treble.Vintf.Location

/-!
# SELinux policy versions

A vendor names the version of the platform policy that it was built against in a file of its own.
Older vendors only have attributes such as `init_27_0` in their policy files, of which the
greatest counts.

## Main definitions

* `Vintf.versionedAttribute` — the attributes with a version in them
* `Vintf.attributeVersion?` — the version of such an attribute
* `Vintf.policyVersion` — the greatest version in a policy file
* `Vintf.DeviceRoot.sepolicyVersion` — the version of a device
-/

namespace Treble.Vintf

open Text

/-- A versioned attribute: one of two stems and two numbers, with underscores between them, that make
up a whole word. -/
def versionedAttribute : Pattern :=
  .edge ++
    (.either (.literal "init".toList) (.literal "sepolicy".toList) ++
      .literal ['_'] ++ .group (.run Char.isDigit) ++ .literal ['_'] ++ .group (.run Char.isDigit)) ++
    .edge

/-- The version of an attribute, whose numbers must fit into 32 bits. -/
def attributeVersion? (numbers : List (List Char)) : Option Version :=
  match numbers with
  | [major, minor] =>
    (Decimal.word32? major).bind fun a => (Decimal.word32? minor).map fun b => ⟨a, b⟩
  | _ => none

/-- The greatest version of the versioned attributes in a policy file, which is read line by line. -/
def policyVersion (bytes : List UInt8) : Option Version :=
  ((bytes.splitOn 0x0A).flatMap fun line =>
    (versionedAttribute.search (Utf8.lossy line)).filterMap attributeVersion?).max?

/-- The version that a version file declares in its first line. -/
def declaredVersion (bytes : List UInt8) : Option Version :=
  Version.parse (String.ofList (Utf8.lossy (bytes.takeWhile (· != 0x0A))))

/-- Whether a name ends in `.cil`, with something in front of the dot. -/
def isPolicyName (name : String) : Bool :=
  match cutLast ['.'] name.toList with
  | some (stem, ending) => !stem.isEmpty && ending == "cil".toList
  | none => false

namespace DeviceRoot

/-- The directory of the vendor's policy. -/
def policyDirectory (device : DeviceRoot) : String := device.locate "vendor/etc/selinux"

/-- The file that declares the version. -/
def versionFile (device : DeviceRoot) : String :=
  FileSystem.join device.policyDirectory "plat_sepolicy_vers.txt"

/-- The contents of the policy files that open. -/
def policies (device : DeviceRoot) : List (List UInt8) :=
  ((device.files.names device.policyDirectory).filter isPolicyName).filterMap fun name =>
    let path := FileSystem.join device.policyDirectory name
    if device.files.isFile path then (device.files.read path).toOption else none

/-- The greatest version in the policy files, unless it is zero. -/
def scannedVersion (device : DeviceRoot) : Option Version :=
  ((device.policies.filterMap policyVersion).max?).filter fun version => ⟨0, 0⟩ < version

/-- The version of the vendor's policy. If it is declared, the policy files are not looked at, not
even where the declaration is no version. -/
def sepolicyVersion (device : DeviceRoot) : Except Error (Option Version) :=
  if device.files.leadsTo device.versionFile then
    match device.files.read device.versionFile with
    | .ok bytes => .ok (declaredVersion bytes)
    | .error cause => .error (.read device.versionFile cause.message none)
  else .ok device.scannedVersion

end DeviceRoot

end Treble.Vintf
