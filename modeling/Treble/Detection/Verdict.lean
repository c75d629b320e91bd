import Treble.Version

/-!
# Verdicts

## Main definitions

* `Detection.TrebleFacts` — what is said of a device with Treble
* `Detection.Verdict` — whether a device supports Treble
* `Detection.Verdict.text` — a verdict in words
-/

namespace Treble.Detection

/-- What is said of a device that supports Treble. -/
structure TrebleFacts where
  /-- The only manifest is that of a vendor from before Treble. -/
  legacy : Bool
  /-- The device runs the reduced VNDK. -/
  lite : Bool
  /-- Some HALs are only allowed because the device was upgraded. -/
  upgradeCompliant : Bool
  /-- The VNDK version. -/
  version : Version
deriving DecidableEq, Repr

/-- The facts in words. -/
def TrebleFacts.text (facts : TrebleFacts) : String :=
  "Treble, VNDK " ++ facts.version.text ++ (if facts.lite then " (lite)" else "") ++
    (if facts.legacy then ", legacy manifest" else "") ++
    (if facts.upgradeCompliant then ", upgrade compliant" else "")

/-- Whether a device supports Treble. -/
inductive Verdict where
  | treble (facts : TrebleFacts)
  | notTreble
deriving DecidableEq, Repr

/-- A verdict in words. -/
def Verdict.text : Verdict → String
  | .treble facts => facts.text
  | .notTreble => "Not Treble"

end Treble.Detection
