import Treble.Engine.Outcome
import Treble.Vintf.Error

/-!
# Errors

What can end a query without an answer. An error of the VINTF files or of the compatibility engine
is passed on; malformed input and contradictory device data carry a message and say, as far as
known, where the trouble lies.

## Main definitions

* `Context` — where the trouble lies
* `Error` — the errors
* `Error.message` — an error in words
-/

namespace Treble

/-- Where the trouble lies. -/
structure Context where
  /-- The property, or the place in a file, that is at fault. -/
  field : Option String := none
  /-- More about it, such as the values that contradict each other. -/
  details : Option String := none
  /-- The file that the data came from. -/
  source : Option String := none
deriving DecidableEq, Repr, Inhabited

/-- The parts of a context that are set, each with its label. -/
def Context.parts (context : Context) : List String :=
  [context.field.map ("field: " ++ ·), context.details.map ("details: " ++ ·),
    context.source.map ("source: " ++ ·)].filterMap id

/-- A context in words: its parts in brackets, and nothing if there are none. -/
def Context.text (context : Context) : String :=
  match context.parts with
  | [] => ""
  | parts => " (" ++ ", ".intercalate parts ++ ")"

/-- What can end a query without an answer. -/
inductive Error where
  /-- A VINTF file cannot be read or is no XML. -/
  | vintf (cause : Vintf.Error)
  /-- The compatibility engine, or a call of it, is at fault. -/
  | engine (cause : Engine.Error)
  /-- Input that cannot be read or parsed. -/
  | malformed (message : String) (context : Context)
  /-- Device data that contradicts itself. -/
  | inconsistent (message : String) (context : Context)
deriving DecidableEq, Repr

namespace Error

/-- An error in words. -/
def message : Error → String
  | .vintf cause => "VINTF data error: " ++ cause.message
  | .engine cause => "Compatibility engine error: " ++ cause.message
  | .malformed message context => "Malformed input: " ++ message ++ context.text
  | .inconsistent message context => "Inconsistent device data: " ++ message ++ context.text

/-- Where the trouble lies, if the error says so. -/
def context? : Error → Option Context
  | .malformed _ context | .inconsistent _ context => some context
  | _ => none

/-- Errors of device data that contradicts itself. -/
def isInconsistent : Error → Bool
  | .inconsistent .. => true
  | _ => false

/-- Errors of input that cannot be read or parsed. -/
def isMalformed : Error → Bool
  | .malformed .. | .vintf _ => true
  | _ => false

/-- The messages of an error and of what it was caused by, the outermost first. -/
def chain : Error → List String
  | .vintf cause => [message (.vintf cause), cause.message]
  | .engine cause => [message (.engine cause), cause.message]
  | error => [error.message]

end Error

end Treble
