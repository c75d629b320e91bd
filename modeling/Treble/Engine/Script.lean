import Treble.Engine.Native
import Treble.Text.Cut
import Treble.Text.Decimal

/-!
# Engines for trials

Engines that need no device: one that gives prepared replies in turn, and a library that looks up
its status code by the level of the matrix it is given.

## Main definitions

* `Engine.Reply` — a prepared reply
* `Engine.scripted` — the engine that gives replies in turn
* `Engine.Library.byLevel` — the library that looks up its status code
-/

namespace Treble.Engine

/-- A prepared reply. -/
inductive Reply where
  | status (code : Int32)
  | unavailable
  | failure (error : Error)
deriving DecidableEq

/-- What a reply says. -/
def Reply.answer : Reply → Except Error Outcome
  | .status code => Outcome.ofStatus code
  | .unavailable => .ok .unavailable
  | .failure error => .error error

/-- The engine that gives replies in turn, and the status code zero after the last one. Its state
is the replies that are left. -/
def scripted : Engine (List Reply) where
  check _ replies :=
    match replies with
    | [] => (Outcome.ofStatus 0, [])
    | reply :: rest => (reply.answer, rest)

/-- The number in the first attribute `level` of a matrix; zero if there is none. -/
def levelOf (matrix : String) : Nat :=
  match Text.cut "level=\"".toList matrix.toList with
  | some (_, after) => (Text.Decimal.nat? (after.takeWhile Char.isDigit)).getD 0
  | none => 0

/-- The library that looks up its status code by the level of the matrix, with the code zero
beyond the end of the table. -/
def Library.byLevel (codes : List Int32) : Library Unit :=
  .exporting fun request memory => ((codes[levelOf request.matrix]?).getD 0, memory)

end Treble.Engine
