import DetectionRule.Proofs.CommandLine.Document
import DetectionRule.Proofs.CommandLine.FileLines
import DetectionRule.Proofs.CommandLine.Settings
import DetectionRule.Proofs.CommandLine.Values

/-!
# Which value counts

A variable of the process hides that of the settings file, even if it is blank. The settings are
read from both before anything else is done, so that a bad one ends every run. A number of the
header comes from the words, else from a variable that is not blank, else from the default; the two
counts come from the words only, and texts are escaped when the words or a variable ask for it. Main
statement: `run_layered`.
-/

namespace DetectionRule

namespace CommandLine

/-- A variable of the process, or else of the file. -/
def Environment.layered (process : Environment) (pairs : List (String × String)) (name : String) :
    Option String :=
  (process.lookup name).or (pairs.lookup name)

/-- The number that the words give with an option, else the one that the variable sets. -/
inductive Chosen (words : List String) (option : Valued) (default : Int) (setting : Option String) :
    Int → Prop
  | given {text : String} {n : Int} (h : option.GivenBy words text)
      (hn : Text.Decimal.readSigned text.toList = .ok n) : Chosen words option default setting n
  | set {n : Int} (absent : ∀ text, ¬option.GivenBy words text)
      (h : Settings.Sets default setting n) : Chosen words option default setting n

/-- What the words and the variables decide about a rule. -/
structure Decides (words : List String) (lookup : String → Option String) (header : Header)
    (mode : TextMode) : Prop where
  id : ∀ n, Chosen words .id 100100 (lookup "RULEGEN_DEFAULT_ID") n ↔ n = header.id
  level : ∀ n, Chosen words .level 5 (lookup "RULEGEN_DEFAULT_LEVEL") n ↔ n = header.level
  frequency : ∀ n, header.frequency = some n ↔
    ∃ text, Valued.frequency.GivenBy words text ∧ Text.Decimal.readUnsigned text.toList = .ok n
  timeframe : ∀ n, header.timeframe = some n ↔
    ∃ text, Valued.timeframe.GivenBy words text ∧ Text.Decimal.readUnsigned text.toList = .ok n
  escaped : mode = .escaped ↔ Switch.escape.word ∈ words ∨
    ∃ text, lookup "RULEGEN_ESCAPE" = some text ∧ Settings.readFlag? text = some true

/-- The rule of the draft by itself, or in a document where one is asked for. -/
structure Prints (words : List String) (stdout : String) (draft : Draft) (mode : TextMode) :
    Prop where
  xml : ¬Valued.format.GivenBy words "json" → stdout = draft.render mode ++ "\n"
  json : Valued.format.GivenBy words "json" → ∃ value header conditions lint,
    Json.read stdout = some value ∧ draft.header.ShownBy header ∧
      value.IsObject
        ([("header", header), ("conditions", conditions), ("xml", .text (draft.render mode)),
          ("escape", .flag (mode = .escaped))] ++ lint)

variable {words : List String} {process : Environment} {file : Option String}
  {pairs : List (String × String)} {command : Command} {options : GenerateOptions}
  {settings : Settings}

theorem toOption_eq_some_iff {ε α : Type} {x : Except ε α} {a : α} :
    x.toOption = some a ↔ x = .ok a := by
  cases x <;> simp [Except.toOption]

theorem chosen_iff (slot : Slot Int) {name : String} {default n number : Int}
    {setting : Option String} (accepted : Command.ofWords words = .ok (.generate options))
    (hread : ∀ text, slot.read text = (Text.Decimal.readSigned text.toList).toOption)
    (h : Settings.integerOr default name setting = .ok number) :
    Chosen words slot.option default setting n ↔ n = (slot.kept options).getD number := by
  cases hkept : slot.kept options with
  | none =>
    have absent := (slot.kept_eq_none_iff accepted).1 hkept
    rw [Option.getD_none, ← Settings.sets_iff h]
    constructor
    · rintro (⟨given, -⟩ | ⟨-, hsets⟩)
      · exact absurd given (absent _)
      · exact hsets
    · exact .set absent
  | some m =>
    obtain ⟨value, given, hvalue⟩ := (slot.kept_eq_some_iff accepted).1 hkept
    constructor
    · rintro (⟨other, hn⟩ | ⟨absent, -⟩)
      · have hother : slot.kept options = some n :=
          (slot.kept_eq_some_iff accepted).2 ⟨_, other, (hread _).trans (toOption_eq_some_iff.2 hn)⟩
        rw [hkept] at hother
        exact (Option.some.inj hother).symm
      · exact absurd given (absent value)
    · rintro rfl
      exact .given given (toOption_eq_some_iff.1 ((hread value).symm.trans hvalue))

theorem count_iff (slot : Slot Nat) {n : Nat}
    (accepted : Command.ofWords words = .ok (.generate options))
    (hread : ∀ text, slot.read text = (Text.Decimal.readUnsigned text.toList).toOption) :
    slot.kept options = some n ↔
      ∃ text, slot.option.GivenBy words text ∧ Text.Decimal.readUnsigned text.toList = .ok n := by
  rw [slot.kept_eq_some_iff accepted]
  simp only [hread, toOption_eq_some_iff]

theorem mode_eq_escaped_iff (options : GenerateOptions) (settings : Settings) :
    options.mode settings = .escaped ↔ options.escape = true ∨ settings.escapeOutput = true := by
  rw [GenerateOptions.mode]
  cases options.escape <;> cases settings.escapeOutput <;> decide

theorem givenBy_json_iff (accepted : Command.ofWords words = .ok (.generate options)) :
    Valued.format.GivenBy words "json" ↔ options.format = some .json := by
  have hread : ∀ text, Valued.readFormat? text = some .json ↔ text = "json" := by
    intro text
    rw [Valued.readFormat?]
    split <;> simp_all
  have hkept : options.format = some .json ↔
      ∃ text, Valued.format.GivenBy words text ∧ Valued.readFormat? text = some .json :=
    Slot.format.kept_eq_some_iff accepted
  rw [hkept]
  simp [hread]

theorem decides_of_settings {lookup : String → Option String}
    (accepted : Command.ofWords words = .ok (.generate options))
    (configured : Settings.read Settings.defaultStem lookup = .ok settings) :
    Decides words lookup (options.header settings) (options.mode settings) := by
  obtain ⟨hid, hlevel, hescape⟩ := Settings.read_eq_ok configured
  refine ⟨fun n => ?_, fun n => ?_, fun n => ?_, fun n => ?_, ?_⟩
  · exact chosen_iff .id accepted (fun _ => rfl) hid
  · exact chosen_iff .level accepted (fun _ => rfl) hlevel
  · exact count_iff .frequency accepted fun _ => rfl
  · exact count_iff .timeframe accepted fun _ => rfl
  · rw [mode_eq_escaped_iff, Settings.flag_iff hescape]
    exact or_congr_left (Command.isOn_iff_mem .escape accepted)

/-! ### Runs -/

theorem prints_of_accepted (accepted : Command.ofWords words = .ok (.generate options))
    (settings : Settings) :
    Prints words (options.printed settings) (options.draft settings) (options.mode settings) := by
  constructor
  · intro hformat
    exact printed_of_format_ne_json fun h => hformat ((givenBy_json_iff accepted).2 h)
  · intro hformat
    have hobject := isObject_document (options.draft settings) (options.mode settings)
      (if options.lint then some (options.findings settings) else none)
    rw [printed_of_format_json ((givenBy_json_iff accepted).1 hformat)]
    exact ⟨_, _, _, _, Json.read_pretty_line _, Header.shownBy_toJson _, hobject⟩

theorem exit_eq_zero_iff (accepted : Command.ofWords words = .ok (.generate options))
    (configured :
      Settings.read Settings.defaultStem (process.withFile file).lookup = .ok settings) :
    (run words process file).exit = 0 ↔
      (Switch.strict.word ∈ words → (options.draft settings).validate = .ok ()) := by
  have hvalid : (options.draft settings).validate = .ok () ↔ options.errors settings = [] := by
    rw [validate_draft]
    split <;> simp_all
  have hkept : ¬options.Rejected settings ↔
      (Switch.strict.word ∈ words → options.errors settings = []) := by
    rw [rejected_iff accepted, not_and, not_ne_iff]
  rw [hvalid, ← hkept]
  constructor
  · intro hexit hrejected
    rw [run_eq_generate accepted configured, generate_of_rejected hrejected] at hexit
    cases hexit
  · intro h
    exact (run_of_not_rejected accepted configured h).1

theorem failed_configuration (e : SettingError) :
    Outcome.failed "" (.configuration e) =
      { exit := 1, stdout := "",
        stderr := "error: configuration error: " ++ e.message ++ "\n" } := by
  have hbefore : "error: configuration error: " = "error: " ++ "configuration error: " := by cbv
  have hstderr : "" ++ "error: " ++ ("configuration error: " ++ e.message) ++ "\n"
      = "error: configuration error: " ++ e.message ++ "\n" := by
    rw [hbefore, String.empty_append, ← String.append_assoc]
  exact congrArg (Outcome.mk 1 "") hstderr

/-- The header and the mode of the rule, for every accepted command line, all variables of the
process and every file of plain lines; a strict run prints the rule if it is valid. -/
theorem run_layered (accepted : Command.ofWords words = .ok command)
    (plain : SettingsFile.Plain file pairs) :
    (∀ e, Settings.read "RULEGEN_" (process.layered pairs) = .error e →
        process.layered pairs e.name = some e.value ∧
        run words process file =
          { exit := 1, stdout := "",
            stderr := "error: configuration error: " ++ e.message ++ "\n" }) ∧
      ∀ settings options, Settings.read "RULEGEN_" (process.layered pairs) = .ok settings →
        command = .generate options →
        ∃ header mode, Decides words (process.layered pairs) header mode ∧
          ((run words process file).exit = 0 ↔ (Switch.strict.word ∈ words →
            (Draft.mk header (Store.ofArguments options.conditions)).validate = .ok ())) ∧
          ((run words process file).exit = 0 →
            Prints words (run words process file).stdout
              (Draft.mk header (Store.ofArguments options.conditions)) mode) := by
  have hlookup : (process.withFile file).lookup = process.layered pairs :=
    funext (Environment.lookup_withFile plain process)
  constructor
  · intro e configured
    refine ⟨Settings.lookup_of_read_eq_error configured, ?_⟩
    rw [← hlookup] at configured
    rw [run_of_bad_settings accepted configured, failed_configuration]
  · rintro settings options configured rfl
    have hdraft : Draft.mk (options.header settings) (Store.ofArguments options.conditions)
        = options.draft settings := rfl
    have hdecides := decides_of_settings accepted configured
    rw [← hlookup] at configured
    refine ⟨options.header settings, options.mode settings, hdecides, ?_⟩
    rw [hdraft]
    refine ⟨exit_eq_zero_iff accepted configured, ?_⟩
    intro hexit
    obtain ⟨read, hread, hkept⟩ := run_of_exit_zero accepted hexit
    rw [(run_of_not_rejected accepted hread hkept).2]
    cases hread.symm.trans configured
    exact prints_of_accepted accepted settings

/-- The process leaves the number of the rule blank, and the file would set it. -/
def blankId : Environment := ⟨[("RULEGEN_DEFAULT_ID", " "), ("RULEGEN_ESCAPE", "On")]⟩

def twoLines : String := "RULEGEN_DEFAULT_ID=7\nRULEGEN_DEFAULT_LEVEL = 12"

def twoPairs : List (String × String) :=
  [("RULEGEN_DEFAULT_ID", "7"), ("RULEGEN_DEFAULT_LEVEL", "12")]

theorem plain_twoLines : SettingsFile.Plain (some twoLines) twoPairs := by
  have hid : SettingsFile.IsName "RULEGEN_DEFAULT_ID".toList := ⟨⟨'R', by decide⟩, by decide⟩
  have hlevel : SettingsFile.IsName "RULEGEN_DEFAULT_LEVEL".toList :=
    ⟨⟨'R', by decide⟩, by decide⟩
  have hvalue : ∀ value ∈ ["7", "12"], SettingsFile.IsValue value.toList := by
    intro value hvalue
    have hclear : '#' ∉ value.toList := by revert value; decide
    exact ⟨by revert value; decide, by revert value; decide, SettingsFile.clear_of_not_mem hclear⟩
  have hfirst : SettingsFile.Line "RULEGEN_DEFAULT_ID=7".toList
      (some ("RULEGEN_DEFAULT_ID", "7")) :=
    .assignment {} hid (hvalue "7" (by decide))
  have hlast : SettingsFile.Line "RULEGEN_DEFAULT_LEVEL = 12".toList
      (some ("RULEGEN_DEFAULT_LEVEL", "12")) :=
    .assignment { before := ⟨[' '], by decide⟩, after := ⟨[' '], by decide⟩ } hlevel
      (hvalue "12" (by decide))
  exact .text (.cons hfirst (by decide) (.last hlast (by decide) ⟨'2', by decide⟩))

theorem run_layered_blankId :
    let words := ["generate", "--frequency", "8", "-c", "regex=x<y"]
    let high : Environment := ⟨[("RULEGEN_DEFAULT_LEVEL", "high")]⟩
    (run words blankId (some twoLines)).stdout =
        "<rule id=\"100100\" level=\"12\" frequency=\"8\">\n"
          ++ "    <regex>x&lt;y</regex>\n</rule>\n" ∧
      run ["generate", "--level", "3"] high (some twoLines) =
        { exit := 1, stdout := "",
          stderr := "error: configuration error: invalid value \"high\" for environment variable "
            ++ "RULEGEN_DEFAULT_LEVEL: invalid digit found in string\n" } := by
  intro words high
  have accepted : Command.ofWords words
      = .ok (.generate { frequency := some 8, conditions := [⟨.regex, [], "x<y"⟩] }) := by
    decide
  have acceptedLevel : Command.ofWords ["generate", "--level", "3"]
      = .ok (.generate { level := some 3 }) := by
    decide
  have configured : Settings.read "RULEGEN_" (blankId.layered twoPairs)
      = .ok { level := 12, escapeOutput := true } := by
    decide
  have misconfigured : Settings.read "RULEGEN_" (high.layered twoPairs)
      = .error ⟨"RULEGEN_DEFAULT_LEVEL", "high", .integer .invalidDigit⟩ := by
    decide
  constructor
  · obtain ⟨header, mode, hdecides, hexit, hprints⟩ :=
      (run_layered accepted plain_twoLines).2 _ _ configured rfl
    have hid : 100100 = header.id :=
      (hdecides.id 100100).1 (.set ((Slot.id.kept_eq_none_iff accepted).1 rfl) (.blank (by decide)))
    have hlevel : 12 = header.level :=
      (hdecides.level 12).1 (.set ((Slot.level.kept_eq_none_iff accepted).1 rfl) (.integer rfl))
    have hfrequency : header.frequency = some 8 :=
      (hdecides.frequency 8).2 ⟨"8", .later .apart, rfl⟩
    have htimeframe : header.timeframe = none := by
      have hnone := (Slot.timeframe.kept_eq_none_iff accepted).1 rfl
      rw [Option.eq_none_iff_forall_ne_some]
      intro n hn
      obtain ⟨text, given, -⟩ := (hdecides.timeframe n).1 hn
      exact hnone text given
    have hmode : mode = .escaped := hdecides.escaped.2 (.inr ⟨"On", by decide, by decide⟩)
    have hformat := (Slot.format.kept_eq_none_iff accepted).1 rfl
    have hdone := hexit.2 fun hstrict => absurd hstrict (by decide)
    obtain ⟨id, level, frequency, timeframe⟩ := header
    cases hid
    cases hlevel
    cases hfrequency
    cases htimeframe
    rw [(hprints hdone).xml (hformat "json"), hmode]
    decide
  · obtain ⟨-, hrun⟩ := (run_layered acceptedLevel plain_twoLines).1 _ misconfigured
    rw [hrun]
    decide +kernel

end CommandLine

end DetectionRule
