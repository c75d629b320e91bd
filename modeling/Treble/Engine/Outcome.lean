import Treble.Text.Decimal

/-!
# Outcomes of the compatibility engine

The engine compares a device with one framework matrix and answers by a status code. Four codes
have a meaning; every other one breaks the agreement with the engine.

## Main definitions

* `Engine.Outcome` — what a comparison can come to
* `Engine.Error` — why there is no outcome
* `Engine.Outcome.ofStatus` — the meaning of a status code
-/

namespace Treble.Engine

/-- What a comparison of the device with one framework matrix can come to. -/
inductive Outcome where
  /-- The device does not meet the matrix. -/
  | mismatch
  /-- The device meets the matrix. -/
  | compatible
  /-- There is no engine to ask. -/
  | unavailable
  /-- The engine refused the bundled matrix. -/
  | builtinMatrixInvalid
  /-- The engine could not put the device's manifest together. -/
  | deviceManifestInvalid
deriving DecidableEq, Repr

/-- Why there is no outcome. -/
inductive Error where
  /-- The engine answered with a code that has no meaning. -/
  | unexpectedStatus (status : Int32)
  /-- The engine cannot be called with such an argument. -/
  | invalidArgument (what : String)
  /-- The engine is unusable after an earlier failure. -/
  | poisoned
deriving DecidableEq, Repr

/-- An error of the engine in words. -/
def Error.message : Error → String
  | .unexpectedStatus status =>
    "Unknown return value from check_compatibility_matrix: " ++
      Text.Decimal.signedText status.toInt
  | .invalidArgument what => "Invalid argument for the native engine: " ++ what
  | .poisoned => "Engine handle lock poisoned"

/-- The meaning of a status code. -/
def Outcome.ofStatus (status : Int32) : Except Error Outcome :=
  if status = 0 then .ok .mismatch
  else if status = 1 then .ok .compatible
  else if status = -1 then .ok .builtinMatrixInvalid
  else if status = -2 then .ok .deviceManifestInvalid
  else .error (.unexpectedStatus status)

end Treble.Engine
