import Treble.Cli.Run
import Treble.Proofs.Cli.Json
import Treble.Proofs.Cli.Options
import Treble.Proofs.Cli.PropertyFile

/-!
# A verdict and its report

The flag for a report changes how a result is written, and not what the result is: none of the options
that decide on it is touched. A verdict can be read back from its words and from its report, so either
output says what the other one does.

## Main definitions

* `Cli.Agree` — outputs in words and as a report that are about the same result
* `Cli.reportOfLine?` — the report that a line in words stands for

## Main results

* `Cli.Options.parse_json` — the flag may stand in front of any option
* `Cli.agree_detect` — the flag changes nothing but the way to write
* `Cli.run_detect_reports` — the two outputs of a run
-/

namespace Treble.Cli

open Detection (TrebleFacts Verdict)

/-! ### The flag for a report -/

namespace Options

variable {options result : Options}

theorem apply_mark (options : Options) (flag : Flag) (block : Block) :
    (options.mark flag).apply block = (options.apply block).mark flag := by
  cases block with
  | flag other => cases other <;> cases flag <;> rfl
  | pair option value => cases option <;> cases flag <;> rfl

/-- It makes no difference when a flag is set. -/
theorem foldl_mark (blocks : List Block) (options : Options) (flag : Flag) :
    blocks.foldl apply (options.mark flag) = (blocks.foldl apply options).mark flag := by
  induction blocks generalizing options with
  | nil => rfl
  | cons block rest ih => rw [List.foldl_cons, List.foldl_cons, apply_mark, ih]

theorem parseFrom_mark {arguments : List String} (parses : parseFrom options arguments = .ok result)
    (flag : Flag) : parseFrom (options.mark flag) arguments = .ok (result.mark flag) := by
  obtain ⟨blocks, writes, rfl⟩ := parseFrom_eq_ok_iff.mp parses
  exact parseFrom_eq_ok_iff.mpr ⟨blocks, writes, (foldl_mark blocks options flag).symm⟩

/-- The flag for a report may stand in front of any option, and does nothing else. -/
theorem parse_json {blocks : List Block} {front back : List String} (writes : WritesAll blocks front)
    (parses : parse (front ++ back) = .ok options) :
    parse (front ++ "--json" :: back) = .ok { options with json := true } := by
  rw [parse, parseFrom_append writes] at parses
  rw [parse, parseFrom_append writes, parseFrom_flag .json]
  exact parseFrom_mark parses .json

end Options

/-! ### Agreement -/

theorem Output.ofText_injective : Function.Injective Output.ofText := by
  intro text other same
  have lines : text ++ "\n" = other ++ "\n" := congrArg Output.stdout same
  exact (String.append_left_inj "\n").mp lines

/-- Two outputs, in words and as a report, are about the same result. -/
inductive Agree : Output → Output → Prop
  | verdict (verdict : Verdict) :
      Agree (.ofText verdict.text) (.ofText (Json.ofVerdict verdict).pretty)
  /-- Detection ends with an error. -/
  | undetermined (error : Error) :
      Agree (.ofFailure (undetermined error))
        { Output.ofText (Json.ofError error.message).pretty with exit := 2 }
  /-- The properties cannot be read. -/
  | failure (failure : Failure) : Agree (.ofFailure failure) (.ofFailure failure)

/-- The report that a line in words stands for, if it says a verdict. -/
def reportOfLine? (line : String) : Option String :=
  (Verdict.ofText? (String.ofList line.toList.dropLast)).map fun verdict =>
    (Json.ofVerdict verdict).pretty ++ "\n"

/-- A verdict is read back from its line. -/
theorem reportOfLine?_ofText (verdict : Verdict) :
    reportOfLine? (Output.ofText verdict.text).stdout =
      some (Output.ofText (Json.ofVerdict verdict).pretty).stdout := by
  have words : (verdict.text ++ "\n").toList.dropLast = verdict.text.toList := by
    rw [String.toList_append]
    exact List.dropLast_concat
  rw [reportOfLine?, Output.ofText, words, String.ofList_toList, Verdict.ofText?_text,
    Option.map_some, Output.ofText]

namespace Agree

variable {plain report : Output}

/-- Both runs succeed or both fail. -/
theorem exit_eq_zero_iff (agree : Agree plain report) : plain.exit = 0 ↔ report.exit = 0 := by
  cases agree with
  | verdict => exact Iff.rfl
  | undetermined => exact iff_of_false Nat.one_ne_zero (Nat.succ_ne_zero 1)
  | failure => exact Iff.rfl

/-- Both outputs say the same verdict, or neither says one. -/
theorem eq_ofText_iff (agree : Agree plain report) (verdict : Verdict) :
    plain = .ofText verdict.text ↔ report = .ofText (Json.ofVerdict verdict).pretty := by
  cases agree with
  | verdict other =>
    rw [Output.ofText_injective.eq_iff, Output.ofText_injective.eq_iff,
      Verdict.text_injective.eq_iff, Json.pretty_injective.eq_iff, Json.ofVerdict_injective.eq_iff]
  | undetermined | failure =>
    -- Neither output ends as one with a verdict does.
    refine iff_of_false (fun h => ?_) fun h => ?_ <;> cases congrArg Output.exit h

theorem reportOfLine?_stdout (agree : Agree plain report) (succeeds : plain.exit = 0) :
    reportOfLine? plain.stdout = some report.stdout := by
  cases agree with
  | verdict verdict => exact reportOfLine?_ofText verdict
  | undetermined | failure => cases succeeds

end Agree

/-! ### Runs -/

/-- The flag for a report changes nothing but the way to write. -/
theorem agree_detect (world : World) {options : Options} (words : options.json = false) :
    Agree (detect world options) (detect world { options with json := true }) := by
  -- Neither the properties nor the configuration hang on the flag.
  have given : properties world { options with json := true } = properties world options := rfl
  have configured : config world { options with json := true } = config world options := rfl
  rw [detect, detect, given]
  cases properties world options with
  | error failure => exact .failure failure
  | ok properties =>
    simp only [configured, words]
    cases verdict world (config world options) properties with
    | ok verdict => exact .verdict verdict
    | error error => exact .undetermined error

/-- Facts can be told from their words, and these are never those for a device without Treble. So with
the flag for a report in front of any option a run is about the same result as without it: both succeed or
both fail, both say the same verdict or neither says one, and what is reported can be read off the
words. -/
theorem run_detect_reports :
    Function.Injective TrebleFacts.text ∧ (∀ facts : TrebleFacts, facts.text ≠ Verdict.notTreble.text) ∧
    ∀ (world : World) (blocks : List Block) (front back : List String) (options : Options),
      WritesAll blocks front → Options.parse (front ++ back) = .ok options → options.json = false →
      let plain := run world ("detect" :: (front ++ back))
      let report := run world ("detect" :: (front ++ "--json" :: back))
      Agree plain report ∧ (plain.exit = 0 ↔ report.exit = 0) ∧
      (∀ verdict : Verdict, plain = .ofText verdict.text ↔
        report = .ofText (Json.ofVerdict verdict).pretty) ∧
      (plain.exit = 0 → reportOfLine? plain.stdout = some report.stdout) := by
  refine ⟨TrebleFacts.text_injective, TrebleFacts.text_ne_notTreble, ?_⟩
  intro world blocks front back options writes parses words plain report
  have agree : Agree plain report := by
    have parsesReport := Options.parse_json writes parses
    simp only [plain, report, run, withOptions, parses, parsesReport]
    exact agree_detect world words
  exact ⟨agree, agree.exit_eq_zero_iff, agree.eq_ofText_iff, agree.reportOfLine?_stdout⟩

/-- The properties of a device with the reduced VNDK. -/
def liteFile : String := "ro.vndk.lite=true\nro.vndk.version=30.1\n"

/-- The flag behind the name of the property file. -/
theorem run_detect_reports_lite :
    let plain := run (withPropertyFile liteFile) ["detect", "--props", "build.prop", "-v"]
    let report := run (withPropertyFile liteFile) ["detect", "--props", "build.prop", "--json", "-v"]
    plain = .ofText "Treble, VNDK 30.1 (lite)" ∧ Agree plain report ∧ report.exit = 0 ∧
      reportOfLine? "Treble, VNDK 30.1 (lite)\n" = some report.stdout := by
  intro plain report
  have writes : WritesAll [.pair .props "build.prop"] ["--props", "build.prop"] :=
    .pair .props _ .nil
  obtain ⟨agree, exits, -, read⟩ := run_detect_reports.2.2 (withPropertyFile liteFile) _ _ ["-v"]
    { props := "build.prop", verbose := true } writes rfl rfl
  have words : plain = .ofText "Treble, VNDK 30.1 (lite)" := by
    decide +kernel
  have succeeds : plain.exit = 0 := by
    rw [words]
    rfl
  have line : plain.stdout = "Treble, VNDK 30.1 (lite)\n" := by
    rw [words]
    rfl
  exact ⟨words, agree, exits.mp succeeds, line ▸ read succeeds⟩

end Treble.Cli
