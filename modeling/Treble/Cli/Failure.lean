import Treble.Error
import Treble.Text.Decimal

/-!
# Failures of commands

A command that fails says why, and what that was caused by, outermost first. A single cause stands
alone, several are numbered, and the further lines of a cause are indented as far as its first.

## Main definitions

* `Cli.Failure` — a message and its causes
* `Cli.Failure.report` — what is written about it
-/

namespace Treble.Cli

/-- Why a command fails. -/
structure Failure where
  message : String
  causes : List String := []
deriving DecidableEq, Repr

namespace Failure

/-- The failure of an error that nothing is said about. -/
def ofError (error : Error) : Failure :=
  { message := error.message, causes := error.chain.drop 1 }

/-- A text whose lines after the first one begin with some blanks. -/
def indented (blanks : Nat) (text : String) : String :=
  String.ofList <| text.toList.flatMap fun c =>
    if c = '\n' then '\n' :: List.replicate blanks ' ' else [c]

/-- A number in five places. -/
def numbered (n : Nat) : String :=
  let digits := Text.Decimal.digits n
  String.ofList (List.replicate (5 - digits.length) ' ' ++ digits)

/-- The lines of the causes. -/
def causeLines : List String → List String
  | [cause] => ["    " ++ indented 4 cause]
  | causes => causes.zipIdx.map fun (cause, n) => numbered n ++ ": " ++ indented 7 cause

/-- What is written about a failure. -/
def report (failure : Failure) : String :=
  "Error: " ++ failure.message ++ "\n" ++
    match failure.causes with
    | [] => ""
    | causes => "\nCaused by:\n" ++ String.join ((causeLines causes).map (· ++ "\n"))

end Failure

end Treble.Cli
