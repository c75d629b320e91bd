/-!
# Errors of VINTF data

## Main definitions

* `Vintf.Error` — why a file of VINTF data gives no facts
* `Vintf.Error.message` — an error in words
* `Vintf.Error.withHint` — an error with a hint
-/

namespace Treble.Vintf

/-- Why a file of VINTF data gives no facts. -/
inductive Error where
  /-- The file cannot be read. -/
  | read (path reason : String) (hint : Option String)
  /-- The file is no XML. -/
  | xml (path reason : String) (hint : Option String)
  /-- A bundled matrix has no end tag to put anything in front of. -/
  | missingClosingTag (name : String)
deriving DecidableEq, Repr

namespace Error

/-- A hint on a line of its own. -/
def hintText : Option String → String
  | none => ""
  | some hint => "\n Hint: " ++ hint

/-- An error in words. -/
def message : Error → String
  | .read path reason hint => "Failed to read " ++ path ++ ": " ++ reason ++ hintText hint
  | .xml path reason hint => "Malformed XML in " ++ path ++ ": " ++ reason ++ hintText hint
  | .missingClosingTag name =>
    "Built-in matrix " ++ name ++ " has no closing </compatibility-matrix> tag"

/-- The error with a hint, if it can carry one. -/
def withHint (error : Error) (hint : String) : Error :=
  match error with
  | .read path reason _ => .read path reason (some hint)
  | .xml path reason _ => .xml path reason (some hint)
  | .missingClosingTag name => .missingClosingTag name

end Error

end Treble.Vintf
