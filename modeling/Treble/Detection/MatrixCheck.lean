import Treble.Engine.Basic
import Treble.Vintf.Framework

/-!
# The check against the framework matrices

The bundled matrices are put to the engine one after the other until a reply settles the question.
A device that aims at a level above the bundled ones may fail all of them without being at fault.

## Main definitions

* `Detection.MatrixVerdict` — what the check comes to
* `Detection.MatrixCheck` — the device's side of the check
* `Detection.MatrixCheck.run` — the check
-/

namespace Treble.Detection

open Vintf (FrameworkMatrix)

/-- What the check comes to. -/
inductive MatrixVerdict where
  /-- Some matrix accepts the device. -/
  | compatible
  /-- No matrix accepts the device. -/
  | incompatible
  /-- The check could not be made, or the device is newer than the matrices. -/
  | indeterminate
deriving DecidableEq, Repr

/-- The device's side of the check. -/
structure MatrixCheck where
  root : String
  vendorSku : String
  hardwareSku : String
  /-- The framework level that the device aims at. -/
  targetLevel : Option Int64
deriving DecidableEq

namespace MatrixCheck

/-- Whether the device aims at a level above the bundled ones. -/
def isNewer (check : MatrixCheck) : Bool :=
  match check.targetLevel with
  | some level => (FrameworkMatrix.maxLevel : Int) < level.toInt
  | none => false

/-- The verdict on a device that is not accepted. -/
def rejection (check : MatrixCheck) : MatrixVerdict :=
  if check.isNewer then .indeterminate else .incompatible

/-- The request for one matrix. -/
def request (check : MatrixCheck) (matrix : String) : Engine.Request :=
  { matrix := matrix, root := check.root, vendorSku := check.vendorSku
    hardwareSku := check.hardwareSku }

/-- The verdict that a reply settles, if it settles one. -/
def settledBy (check : MatrixCheck) : Engine.Outcome → Option MatrixVerdict
  | .mismatch => none
  | .compatible => some .compatible
  | .unavailable => some .indeterminate
  | .builtinMatrixInvalid => some .indeterminate
  | .deviceManifestInvalid => some check.rejection

/-- The check against the matrices of a list, with the state of the engine before and after. -/
def runOver {σ : Type} (check : MatrixCheck) (engine : Engine σ) (version : Version) :
    List FrameworkMatrix → σ → Except Engine.Error MatrixVerdict × σ
  | [], state => (.ok check.rejection, state)
  | matrix :: rest, state =>
    match matrix.withSepolicy version with
    -- A matrix that cannot take the version cannot be put to the engine.
    | .error _ => (.ok .indeterminate, state)
    | .ok text =>
      match engine.check (check.request text) state with
      | (.error error, state) => (.error error, state)
      | (.ok outcome, state) =>
        match check.settledBy outcome with
        | some verdict => (.ok verdict, state)
        | none => runOver check engine version rest state

/-- The check against the bundled matrices. -/
def run {σ : Type} (check : MatrixCheck) (engine : Engine σ) (version : Version) (state : σ) :
    Except Engine.Error MatrixVerdict × σ :=
  check.runOver engine version FrameworkMatrix.bundled state

end MatrixCheck

end Treble.Detection
