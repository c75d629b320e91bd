import Treble.Detection.Verdict
import Treble.Text.Decimal

/-!
# JSON reports

The values that reports are made of, and their text: two spaces for each level, a field on each
line.

## Main definitions

* `Cli.Json` — the values
* `Cli.Json.pretty` — the text of a value
* `Cli.Json.ofVerdict` — the report of a verdict
-/

namespace Treble.Cli

open Text

/-- The values that reports are made of. -/
inductive Json where
  | null
  | bool (value : Bool)
  | number (value : Nat)
  | text (value : String)
  /-- Fields, in ascending order of their names. -/
  | object (fields : List (String × Json))

namespace Json

/-- A code point below 256 in two hexadecimal digits. -/
def hexPair (code : Nat) : List Char :=
  [Nat.digitChar (code / 16), Nat.digitChar (code % 16)]

/-- A character as it stands between quotes. -/
def escapedChar (c : Char) : List Char :=
  match c with
  | '"' => ['\\', '"']
  | '\\' => ['\\', '\\']
  | '\x08' => ['\\', 'b']
  | '\x0c' => ['\\', 'f']
  | '\n' => ['\\', 'n']
  | '\r' => ['\\', 'r']
  | '\t' => ['\\', 't']
  | c => if c.toNat < 0x20 then ['\\', 'u', '0', '0'] ++ hexPair c.toNat else [c]

/-- A text between quotes. -/
def quotedText (value : String) : String :=
  String.ofList ('"' :: value.toList.flatMap escapedChar ++ ['"'])

/-- The blanks in front of a line. -/
def margin (depth : Nat) : String := String.ofList (List.replicate (2 * depth) ' ')

mutual

/-- The text of a value at some depth. -/
def render (depth : Nat) : Json → String
  | .null => "null"
  | .bool value => if value then "true" else "false"
  | .number value => Decimal.text value
  | .text value => quotedText value
  | .object [] => "\x7b\x7d"
  | .object (field :: fields) =>
    "\x7b\n" ++ ",\n".intercalate (renderFields (depth + 1) (field :: fields)) ++ "\n" ++
      margin depth ++ "\x7d"

/-- The lines of fields at some depth. -/
def renderFields (depth : Nat) : List (String × Json) → List String
  | [] => []
  | (name, value) :: rest =>
    (margin depth ++ quotedText name ++ ": " ++ render depth value) :: renderFields depth rest

end

/-- The text of a value. -/
def pretty (value : Json) : String := render 0 value

/-- The report of the facts on a device with Treble. -/
def ofFacts (facts : Detection.TrebleFacts) : Json :=
  .object
    [("legacy", .bool facts.legacy), ("lite", .bool facts.lite),
      ("upgrade_compliant", .bool facts.upgradeCompliant),
      ("vndk_sub_version", .number facts.version.minor.toNat),
      ("vndk_version", .number facts.version.major.toNat)]

/-- The report of a verdict. -/
def ofVerdict : Detection.Verdict → Json
  | .treble facts => .object [("result", ofFacts facts), ("treble", .bool true)]
  | .notTreble => .object [("treble", .bool false)]

/-- The report of an error. -/
def ofError (message : String) : Json := .object [("error", .text message), ("treble", .null)]

/-- The report on the partition layout. -/
def ofLayout (systemAsRoot : Bool) (dynamic : Option Bool) : Json :=
  .object
    [("dynamic_partitions", (dynamic.map bool).getD .null),
      ("system_as_root", .bool systemAsRoot)]

end Json

end Treble.Cli
