import DetectionRule.Proofs.CommandLine.Agreement
import DetectionRule.Proofs.CommandLine.Document

/-!
# The first output carries the rule only

Whether findings are listed, what is logged and how it is coloured decide about the second output.
Two runs that differ in nothing else end with one exit and print one rule; where a document is
printed, the list of findings in it is the one member that tells them apart. Main statement:
`run_generate_same_rule`.
-/

namespace DetectionRule.CommandLine

/-- The variables that decide about the second output. -/
def reportVariables : List String :=
  ["RULEGEN_LOG", "RUST_LOG", "CLICOLOR_FORCE", "CLICOLOR", "NO_COLOR"]

variable {options otherOptions : GenerateOptions} {words others : List String}
  {process otherProcess : Environment} {file otherFile : Option String}

/-- All settings but the log level are read from other variables. -/
theorem read_settings_of_agree {environment other : Environment}
    (agree : environment.AgreeExcept reportVariables other) :
    ∃ logLevel, Settings.read Settings.defaultStem other.lookup =
      (Settings.read Settings.defaultStem environment.lookup).map fun settings =>
        { settings with logLevel } := by
  have hid := agree (Settings.defaultStem ++ "DEFAULT_ID") (by decide)
  have hlevel := agree (Settings.defaultStem ++ "DEFAULT_LEVEL") (by decide)
  have hescape := agree (Settings.defaultStem ++ "ESCAPE") (by decide)
  refine ⟨(other.lookup (Settings.defaultStem ++ "LOG")).filter fun value =>
    !Text.isBlankText value, ?_⟩
  unfold Settings.read
  rw [← hid, ← hlevel, ← hescape]
  cases Settings.integerOr Header.default.id (Settings.defaultStem ++ "DEFAULT_ID")
      (environment.lookup (Settings.defaultStem ++ "DEFAULT_ID")) with
  | error e => rfl
  | ok ruleId =>
    cases Settings.integerOr Header.default.level (Settings.defaultStem ++ "DEFAULT_LEVEL")
        (environment.lookup (Settings.defaultStem ++ "DEFAULT_LEVEL")) with
    | error e => rfl
    | ok level =>
      cases Settings.flag (Settings.defaultStem ++ "ESCAPE")
          (environment.lookup (Settings.defaultStem ++ "ESCAPE")) with
      | error e => rfl
      | ok escapeOutput => rfl

theorem eq_set_of_dropFrom_eq {switch : Switch}
    (accepted : Command.ofWords words = .ok (.generate options))
    (acceptedOther : Command.ofWords others = .ok (.generate otherOptions))
    (same : switch.dropFrom words = switch.dropFrom others) :
    otherOptions = switch.set (switch.isOn otherOptions) options := by
  have hoff := Command.ofWords_dropFrom switch accepted
  rw [same, Command.ofWords_dropFrom switch acceptedOther] at hoff
  have hoptions : switch.turnOff otherOptions = switch.turnOff options :=
    Command.generate.inj (Except.ok.inj hoff)
  rw [← Switch.set_turnOff, ← hoptions, Switch.set_turnOff, Switch.set_isOn]

theorem dropMember_document (draft : Draft) (mode : TextMode) (listed : Option (List Finding)) :
    (document draft mode listed).sorted.dropMember "lint" = (document draft mode none).sorted := by
  have hdropped : (document draft mode listed).dropMember "lint" = document draft mode none := by
    cases listed <;> simp [document, Json.dropMember, Json.withoutName]
  rw [Json.dropMember_sorted, hdropped]

/-! ### Two runs -/

/-- Command lines that differ in the switch for findings, and environments that differ in what
decides about the second output, end alike and print one rule. -/
theorem run_generate_same_rule (accepted : Command.ofWords words = .ok (.generate options))
    (acceptedOther : Command.ofWords others = .ok (.generate otherOptions))
    (same : Switch.lint.dropFrom words = Switch.lint.dropFrom others)
    (agree : (process.withFile file).AgreeExcept reportVariables
      (otherProcess.withFile otherFile)) :
    (run words process file).exit = (run others otherProcess otherFile).exit ∧
      (options.format ≠ some .json →
        (run words process file).stdout = (run others otherProcess otherFile).stdout) ∧
      (options.format = some .json → (run words process file).exit ≠ 0 →
        (run words process file).stdout = "" ∧
        (run others otherProcess otherFile).stdout = "") ∧
      (options.format = some .json → (run words process file).exit = 0 →
        ∃ value other, Json.read (run words process file).stdout = some value ∧
          Json.read (run others otherProcess otherFile).stdout = some other ∧
          value.dropMember "lint" = other.dropMember "lint") := by
  obtain ⟨logLevel, hread⟩ := read_settings_of_agree agree
  have hset := eq_set_of_dropFrom_eq accepted acceptedOther same
  generalize Switch.lint.isOn otherOptions = on at hset
  subst hset
  cases configured : Settings.read Settings.defaultStem (process.withFile file).lookup with
  | error e =>
    rw [configured] at hread
    rw [run_of_bad_settings accepted configured, run_of_bad_settings acceptedOther hread]
    exact ⟨rfl, fun _ => rfl, fun _ _ => ⟨rfl, rfl⟩, fun _ hexit => nomatch hexit⟩
  | ok settings =>
    have otherConfigured : Settings.read Settings.defaultStem
        (otherProcess.withFile otherFile).lookup = .ok { settings with logLevel } := by
      rw [hread, configured]
      rfl
    by_cases hrejected : options.Rejected settings
    · have hotherRejected :
          (Switch.lint.set on options).Rejected { settings with logLevel } := hrejected
      rw [run_eq_generate accepted configured, generate_of_rejected hrejected,
        run_eq_generate acceptedOther otherConfigured, generate_of_rejected hotherRejected]
      exact ⟨rfl, fun _ => rfl, fun _ _ => ⟨rfl, rfl⟩, fun _ hexit => nomatch hexit⟩
    · have hotherKept :
          ¬(Switch.lint.set on options).Rejected { settings with logLevel } := hrejected
      obtain ⟨hexit, hstdout⟩ := run_of_not_rejected accepted configured hrejected
      obtain ⟨hotherExit, hotherStdout⟩ :=
        run_of_not_rejected acceptedOther otherConfigured hotherKept
      rw [hexit, hotherExit, hstdout, hotherStdout]
      refine ⟨rfl, ?_, fun _ hfailed => absurd rfl hfailed, ?_⟩
      · intro hformat
        have hotherFormat : (Switch.lint.set on options).format ≠ some .json := hformat
        rw [printed_of_format_ne_json hformat, printed_of_format_ne_json hotherFormat]
        rfl
      · intro hformat _
        have hotherFormat : (Switch.lint.set on options).format = some .json := hformat
        rw [printed_of_format_json hformat, printed_of_format_json hotherFormat]
        refine ⟨_, _, Json.read_pretty_line _, Json.read_pretty_line _, ?_⟩
        rw [dropMember_document, dropMember_document]
        rfl

theorem run_generate_same_rule_listedRun :
    let words := ["generate", "-c", "regex=x<y", "--format", "json"]
    let listed := ["generate", "--lint", "-c", "regex=x<y", "--format", "json"]
    let loud : Environment := ⟨[("RUST_LOG", "trace"), ("CLICOLOR_FORCE", "1")]⟩
    let file := some "RULEGEN_DEFAULT_ID=7\n"
    (run words ⟨[]⟩ file).exit = (run listed loud file).exit ∧
      (run words ⟨[]⟩ file).stdout ≠ (run listed loud file).stdout ∧
      ∃ value other, Json.read (run words ⟨[]⟩ file).stdout = some value ∧
        Json.read (run listed loud file).stdout = some other ∧
        value.dropMember "lint" = other.dropMember "lint" := by
  intro words listed loud file
  have accepted : Command.ofWords words = .ok (.generate
      ⟨none, none, none, none, [⟨.regex, [], "x<y"⟩], false, false, false, some .json⟩) := by
    decide
  have acceptedListed : Command.ofWords listed = .ok (.generate
      ⟨none, none, none, none, [⟨.regex, [], "x<y"⟩], false, true, false, some .json⟩) := by
    decide
  have hquiet : Environment.AgreeExcept reportVariables ⟨[]⟩ ⟨[]⟩ := fun _ _ => rfl
  have hloud : Environment.AgreeExcept reportVariables ⟨[]⟩ loud :=
    (hquiet.define_right (by decide : "RUST_LOG" ∈ reportVariables) "trace").define_right
      (by decide : "CLICOLOR_FORCE" ∈ reportVariables) "1"
  have hplain : ∀ text ∈ file, '$' ∉ text.toList := by decide
  obtain ⟨hexit, -, -, hdocuments⟩ :=
    run_generate_same_rule accepted acceptedListed (by decide) (hloud.withFile hplain)
  exact ⟨hexit, by decide +kernel, hdocuments rfl (by decide)⟩

end DetectionRule.CommandLine
