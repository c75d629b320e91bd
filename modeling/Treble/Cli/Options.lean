/-!
# Command line options

The options of a command are flags that stand alone and options that take the next argument as
their value, whatever it looks like. Of several values for an option the last one holds.

## Main definitions

* `Cli.Flag`, `Cli.ValueOption` — the two kinds of option
* `Cli.Options` — what was given
* `Cli.OptionFault` — why arguments are no options
* `Cli.Options.parse` — the options of a list of arguments
-/

namespace Treble.Cli

/-- The options that stand alone. -/
inductive Flag where
  | json
  | verbose
deriving DecidableEq, Repr

/-- The options that take a value. -/
inductive ValueOption where
  | root
  | props
  | engine
  | mounts
deriving DecidableEq, Repr

/-- The flag that an argument is. -/
def Flag.ofArgument? : String → Option Flag
  | "--json" => some .json
  | "-v" => some .verbose
  | "--verbose" => some .verbose
  | _ => none

/-- The option that an argument announces. -/
def ValueOption.ofArgument? : String → Option ValueOption
  | "--root" => some .root
  | "--props" => some .props
  | "--engine" => some .engine
  | "--mounts" => some .mounts
  | _ => none

/-- What was given. -/
structure Options where
  root : Option String := none
  props : Option String := none
  engine : Option String := none
  mounts : Option String := none
  json : Bool := false
  verbose : Bool := false
deriving DecidableEq, Repr

/-- Why arguments are no options. -/
inductive OptionFault where
  /-- There is nothing behind an option that takes a value. -/
  | missingValue (argument : String)
  | unknown (argument : String)
deriving DecidableEq, Repr

/-- What is wrong, in words. -/
def OptionFault.message : OptionFault → String
  | .missingValue argument => argument ++ " requires a value"
  | .unknown argument => "Unknown option: " ++ argument

namespace Options

/-- The options with a flag. -/
def mark (options : Options) : Flag → Options
  | .json => { options with json := true }
  | .verbose => { options with verbose := true }

/-- The options with a value. -/
def set (options : Options) (option : ValueOption) (value : String) : Options :=
  match option with
  | .root => { options with root := some value }
  | .props => { options with props := some value }
  | .engine => { options with engine := some value }
  | .mounts => { options with mounts := some value }

/-- Further options. -/
def parseFrom (options : Options) : List String → Except OptionFault Options
  | [] => .ok options
  | argument :: rest =>
    match Flag.ofArgument? argument with
    | some flag => parseFrom (options.mark flag) rest
    | none =>
      match ValueOption.ofArgument? argument with
      | none => .error (.unknown argument)
      | some option =>
        match rest with
        | [] => .error (.missingValue argument)
        | value :: rest => parseFrom (options.set option value) rest

/-- The options of a list of arguments. -/
def parse (arguments : List String) : Except OptionFault Options := parseFrom {} arguments

end Options

end Treble.Cli
