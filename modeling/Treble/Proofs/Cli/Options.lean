import Mathlib.Data.List.Basic
import Treble.Cli.Options

/-!
# The grammar of options

Arguments are options iff they are blocks, one behind the other: a flag, or an option that takes a value
and the argument behind it, whatever that is. So which arguments are in the place of an option hangs on all
that stands in front of them. Of each option the last value holds, and blocks of different options may
stand in any order.

## Main definitions

* `Cli.Block` — a flag, or an option with its value
* `Cli.WritesAll` — arguments that are some blocks
* `Cli.Stops` — arguments that begin with no block
* `Cli.Reorders` — the same blocks, with those of each option in the same order

## Main results

* `Cli.Options.parseFrom_eq_ok_iff`, `Cli.Options.parseFrom_eq_error_iff` — what is read of arguments, and
  where that stops
* `Cli.Options.value?_foldl`, `Cli.Options.has_foldl` — what blocks come to
* `Cli.Options.parse_blocks` — the options of blocks, and the fault of all other arguments
-/

namespace Treble.Cli

/-! ### Blocks -/

/-- The ways to write a flag. -/
inductive Flag.IsWritten : Flag → String → Prop
  | json : IsWritten .json "--json"
  | verbose : IsWritten .verbose "--verbose"
  | short : IsWritten .verbose "-v"

/-- The argument that announces a value. -/
def ValueOption.argument : ValueOption → String
  | .root => "--root"
  | .props => "--props"
  | .engine => "--engine"
  | .mounts => "--mounts"

theorem Flag.ofArgument?_eq_some_iff {argument : String} {flag : Flag} :
    Flag.ofArgument? argument = some flag ↔ flag.IsWritten argument := by
  constructor
  · intro h
    unfold Flag.ofArgument? at h
    split at h <;> cases h <;> constructor
  · rintro (_ | _ | _) <;> rfl

theorem ValueOption.ofArgument?_eq_some_iff {argument : String} {option : ValueOption} :
    ValueOption.ofArgument? argument = some option ↔ argument = option.argument := by
  constructor
  · intro h
    unfold ValueOption.ofArgument? at h
    split at h <;> cases h <;> rfl
  · rintro rfl
    cases option <;> rfl

/-- No flag announces a value. -/
theorem Flag.ofArgument?_argument (option : ValueOption) :
    Flag.ofArgument? option.argument = none := by
  cases option <;> rfl

/-- A flag, or an option with its value. -/
inductive Block where
  | flag (flag : Flag)
  | pair (option : ValueOption) (value : String)
deriving DecidableEq

/-- Arguments are some blocks, one behind the other. -/
inductive WritesAll : List Block → List String → Prop
  | nil : WritesAll [] []
  | flag {flag : Flag} {argument : String} {blocks : List Block} {rest : List String}
      (written : flag.IsWritten argument) (more : WritesAll blocks rest) :
      WritesAll (.flag flag :: blocks) (argument :: rest)
  /-- Any argument at all is a value. -/
  | pair (option : ValueOption) (value : String) {blocks : List Block} {rest : List String}
      (more : WritesAll blocks rest) :
      WritesAll (.pair option value :: blocks) (option.argument :: value :: rest)

/-- The arguments begin with no block: the first one is no option, or it is the last one and announces a
value. -/
inductive Stops : List String → OptionFault → Prop
  | unknown {argument : String} {rest : List String} (noFlag : ∀ flag : Flag, ¬ flag.IsWritten argument)
      (noOption : ∀ option : ValueOption, argument ≠ option.argument) :
      Stops (argument :: rest) (.unknown argument)
  | missingValue (option : ValueOption) : Stops [option.argument] (.missingValue option.argument)

/-- The value that a block gives to an option. -/
def Block.valueFor? (option : ValueOption) : Block → Option String
  | .flag _ => none
  | .pair other value => if other = option then some value else none

/-- The last value that some blocks give to an option. -/
def lastValue? (option : ValueOption) (blocks : List Block) : Option String :=
  (blocks.filterMap (·.valueFor? option)).getLast?

/-- The same blocks in another order, but with the values of each option in the same one. -/
structure Reorders (blocks others : List Block) : Prop where
  perm : others.Perm blocks
  values : ∀ option, others.filterMap (·.valueFor? option) = blocks.filterMap (·.valueFor? option)

/-- Two blocks that give no values to the same option may change places. -/
theorem Reorders.swap {first second : Block}
    (different : ∀ option, first.valueFor? option = none ∨ second.valueFor? option = none)
    (blocks : List Block) : Reorders (first :: second :: blocks) (second :: first :: blocks) where
  perm := .swap ..
  values option := by
    simp only [List.filterMap_cons]
    rcases different option with none | none <;> simp [none]

namespace Options

variable {arguments : List String} {options result : Options} {fault : OptionFault}

/-! ### Reading blocks -/

/-- The options with a further block. -/
def apply (options : Options) : Block → Options
  | .flag flag => options.mark flag
  | .pair option value => options.set option value

theorem parseFrom_flag {flag : Flag} {argument : String} (written : flag.IsWritten argument)
    (rest : List String) :
    parseFrom options (argument :: rest) = parseFrom (options.mark flag) rest := by
  rw [parseFrom, Flag.ofArgument?_eq_some_iff.mpr written]

theorem parseFrom_pair (option : ValueOption) (value : String) (rest : List String) :
    parseFrom options (option.argument :: value :: rest) =
      parseFrom (options.set option value) rest := by
  rw [parseFrom, Flag.ofArgument?_argument, ValueOption.ofArgument?_eq_some_iff.mpr rfl]

/-- Blocks are read one after the other. -/
theorem parseFrom_append {blocks : List Block} {read : List String} (writes : WritesAll blocks read)
    (options : Options) (rest : List String) :
    parseFrom options (read ++ rest) = parseFrom (blocks.foldl apply options) rest := by
  induction writes generalizing options with
  | nil => rfl
  | flag written _ ih => rw [List.cons_append, parseFrom_flag written, ih, List.foldl_cons, apply]
  | pair option value _ ih =>
    rw [List.cons_append, List.cons_append, parseFrom_pair, ih, List.foldl_cons, apply]

/-- Where no block begins, reading ends with the fault. -/
theorem parseFrom_of_stops {rest : List String} (stops : Stops rest fault) (options : Options) :
    parseFrom options rest = .error fault := by
  cases stops with
  | @unknown argument rest noFlag noOption =>
    have flag : Flag.ofArgument? argument = none :=
      Option.eq_none_iff_forall_ne_some.mpr fun flag h =>
        noFlag flag (Flag.ofArgument?_eq_some_iff.mp h)
    have option : ValueOption.ofArgument? argument = none :=
      Option.eq_none_iff_forall_ne_some.mpr fun option h =>
        noOption option (ValueOption.ofArgument?_eq_some_iff.mp h)
    rw [parseFrom, flag, option]
  | missingValue option =>
    rw [parseFrom, Flag.ofArgument?_argument, ValueOption.ofArgument?_eq_some_iff.mpr rfl]

/-- All arguments are blocks as far as some place, which is their end or where no further block
begins. -/
theorem exists_writesAll (options : Options) (arguments : List String) :
    ∃ blocks read rest, WritesAll blocks read ∧ arguments = read ++ rest ∧
      (rest = [] ∨ ∃ fault, Stops rest fault) := by
  fun_induction parseFrom options arguments with
  | case1 => exact ⟨[], [], [], .nil, rfl, .inl rfl⟩
  | case2 options argument rest flag found ih =>
    obtain ⟨blocks, read, rest, writes, rfl, ends⟩ := ih
    exact ⟨_, _, rest, .flag (Flag.ofArgument?_eq_some_iff.mp found) writes, rfl, ends⟩
  | case3 options argument rest noFlag noOption =>
    refine ⟨[], [], _, .nil, rfl, .inr ⟨_, .unknown (fun flag h => ?_) fun option h => ?_⟩⟩
    · rw [Flag.ofArgument?_eq_some_iff.mpr h] at noFlag
      cases noFlag
    · rw [ValueOption.ofArgument?_eq_some_iff.mpr h] at noOption
      cases noOption
  | case4 options argument noFlag option found =>
    obtain rfl := ValueOption.ofArgument?_eq_some_iff.mp found
    exact ⟨[], [], _, .nil, rfl, .inr ⟨_, .missingValue option⟩⟩
  | case5 options argument noFlag option found value rest ih =>
    obtain rfl := ValueOption.ofArgument?_eq_some_iff.mp found
    obtain ⟨blocks, read, rest, writes, rfl, ends⟩ := ih
    exact ⟨_, _, rest, .pair option value writes, rfl, ends⟩

/-- Arguments are read iff they are blocks, and then the blocks are applied in turn. -/
theorem parseFrom_eq_ok_iff : parseFrom options arguments = .ok result ↔
    ∃ blocks, WritesAll blocks arguments ∧ result = blocks.foldl apply options := by
  constructor
  · intro h
    obtain ⟨blocks, read, rest, writes, rfl, ends⟩ := exists_writesAll options arguments
    rw [parseFrom_append writes] at h
    rcases ends with rfl | ⟨fault, stops⟩
    · rw [List.append_nil]
      exact ⟨blocks, writes, (Except.ok.inj h).symm⟩
    · rw [parseFrom_of_stops stops] at h
      cases h
  · rintro ⟨blocks, writes, rfl⟩
    have read := parseFrom_append writes options []
    rwa [List.append_nil] at read

/-- Reading fails iff the arguments are blocks as far as some place where no further block begins. -/
theorem parseFrom_eq_error_iff : parseFrom options arguments = .error fault ↔
    ∃ blocks read rest, WritesAll blocks read ∧ arguments = read ++ rest ∧ Stops rest fault := by
  constructor
  · intro h
    obtain ⟨blocks, read, rest, writes, rfl, ends⟩ := exists_writesAll options arguments
    rw [parseFrom_append writes] at h
    rcases ends with rfl | ⟨other, stops⟩
    · cases h
    · rw [parseFrom_of_stops stops] at h
      cases h
      exact ⟨blocks, read, rest, writes, rfl, stops⟩
  · rintro ⟨blocks, read, rest, writes, rfl, stops⟩
    rw [parseFrom_append writes, parseFrom_of_stops stops]

/-! ### What blocks come to -/

/-- The value of an option. -/
def value? (options : Options) : ValueOption → Option String
  | .root => options.root
  | .props => options.props
  | .engine => options.engine
  | .mounts => options.mounts

/-- Whether a flag is set. -/
def has (options : Options) : Flag → Bool
  | .json => options.json
  | .verbose => options.verbose

/-- Options are known by their values and flags. -/
theorem ext_iff {left right : Options} : left = right ↔
    (∀ option, left.value? option = right.value? option) ∧ ∀ flag, left.has flag = right.has flag := by
  constructor
  · rintro rfl
    exact ⟨fun _ => rfl, fun _ => rfl⟩
  · rintro ⟨values, flags⟩
    cases left
    cases right
    simp only [mk.injEq]
    exact ⟨values .root, values .props, values .engine, values .mounts, flags .json, flags .verbose⟩

theorem value?_apply (options : Options) (block : Block) (option : ValueOption) :
    (options.apply block).value? option = (block.valueFor? option).or (options.value? option) := by
  cases block with
  | flag flag => cases flag <;> cases option <;> rfl
  | pair other value => cases other <;> cases option <;> rfl

theorem has_apply (options : Options) (block : Block) (flag : Flag) :
    (options.apply block).has flag = true ↔ block = .flag flag ∨ options.has flag = true := by
  cases block with
  | flag other => cases other <;> cases flag <;> simp [apply, mark, has]
  | pair option value => cases option <;> cases flag <;> simp [apply, set, has]

/-- The last value of an option holds, or the one that it had. -/
theorem value?_foldl (blocks : List Block) (options : Options) (option : ValueOption) :
    (blocks.foldl apply options).value? option =
      (lastValue? option blocks).or (options.value? option) := by
  induction blocks generalizing options with
  | nil => rfl
  | cons block rest ih =>
    rw [List.foldl_cons, ih, value?_apply, lastValue?, lastValue?, List.filterMap_cons]
    cases block.valueFor? option with
    | none => rfl
    | some value =>
      rw [List.getLast?_cons, Option.some_or, Option.some_or]
      cases (rest.filterMap (·.valueFor? option)).getLast? <;> rfl

/-- A flag is set if it is one of the blocks, or if it was set. -/
theorem has_foldl (blocks : List Block) (options : Options) (flag : Flag) :
    (blocks.foldl apply options).has flag = true ↔
      .flag flag ∈ blocks ∨ options.has flag = true := by
  induction blocks generalizing options with
  | nil => simp
  | cons block rest ih =>
    rw [List.foldl_cons, ih, has_apply, List.mem_cons, or_left_comm, or_assoc, eq_comm]

/-- Blocks of different options may stand in any order. -/
theorem foldl_eq_of_reorders {blocks others : List Block} (reorders : Reorders blocks others) :
    others.foldl apply {} = blocks.foldl apply {} := by
  refine ext_iff.mpr ⟨fun option => ?_, fun flag => ?_⟩
  · rw [value?_foldl, value?_foldl, lastValue?, lastValue?, reorders.values]
  · rw [Bool.eq_iff_iff, has_foldl, has_foldl, reorders.perm.mem_iff]

/-- Arguments are options iff they are blocks. Then an option has the last of its values, whatever that
looks like, a flag is set iff it is one of the blocks, and with blocks of different options in another
order the options are the same. All other arguments are blocks as far as the first one that is no option,
or as the last one if it announces a value, and this one is the fault. -/
theorem parse_blocks (arguments : List String) :
    ((∃ options, parse arguments = .ok options) ↔ ∃ blocks, WritesAll blocks arguments) ∧
    (∀ blocks, WritesAll blocks arguments → ∃ options, parse arguments = .ok options ∧
      (∀ option, options.value? option = lastValue? option blocks) ∧
      (∀ flag, options.has flag = true ↔ .flag flag ∈ blocks) ∧
      ∀ others reordered, Reorders blocks others → WritesAll others reordered →
        parse reordered = .ok options) ∧
    ∀ fault, parse arguments = .error fault ↔
      ∃ blocks read rest, WritesAll blocks read ∧ arguments = read ++ rest ∧ Stops rest fault := by
  refine ⟨?_, fun blocks writes => ?_, fun fault => parseFrom_eq_error_iff⟩
  · constructor
    · rintro ⟨options, h⟩
      obtain ⟨blocks, writes, -⟩ := parseFrom_eq_ok_iff.mp h
      exact ⟨blocks, writes⟩
    · rintro ⟨blocks, writes⟩
      exact ⟨_, parseFrom_eq_ok_iff.mpr ⟨blocks, writes, rfl⟩⟩
  · refine ⟨blocks.foldl apply {}, parseFrom_eq_ok_iff.mpr ⟨blocks, writes, rfl⟩, ?_, ?_, ?_⟩
    · intro option
      rw [value?_foldl]
      cases option <;> exact Option.or_none
    · intro flag
      rw [has_foldl]
      cases flag <;> exact or_iff_left Bool.false_ne_true
    · intro others reordered reorders writesOthers
      exact parseFrom_eq_ok_iff.mpr ⟨others, writesOthers, (foldl_eq_of_reorders reorders).symm⟩

/-- A value may look like a flag, and a flag may go in front of it. -/
theorem parse_blocks_valueLikeFlag :
    parse ["--root", "--json", "-v", "--root", "b"] = .ok { root := "b", verbose := true } ∧
      parse ["-v", "--root", "--json", "--root", "b"] = .ok { root := "b", verbose := true } := by
  have writes : WritesAll [.pair .root "--json", .flag .verbose, .pair .root "b"]
      ["--root", "--json", "-v", "--root", "b"] :=
    .pair .root _ (.flag .short (.pair .root _ .nil))
  have writesOthers : WritesAll [.flag .verbose, .pair .root "--json", .pair .root "b"]
      ["-v", "--root", "--json", "--root", "b"] :=
    .flag .short (.pair .root _ (.pair .root _ .nil))
  obtain ⟨options, gives, values, flags, same⟩ := (parse_blocks _).2.1 _ writes
  obtain rfl : options = { root := "b", verbose := true } := by
    refine ext_iff.mpr ⟨fun option => ?_, fun flag => ?_⟩
    · rw [values]
      cases option <;> rfl
    · rw [Bool.eq_iff_iff, flags]
      cases flag <;> decide
  exact ⟨gives, same _ _ (.swap (fun _ => .inr rfl) _) writesOthers⟩

end Options

end Treble.Cli
