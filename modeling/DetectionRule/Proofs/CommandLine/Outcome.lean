import DetectionRule.CommandLine.Run
import DetectionRule.Proofs.CommandLine.Words
import DetectionRule.Proofs.Rule.Validity

/-!
# What generating a rule gives

A run of `generate` is turned away when it is strict and there are errors, and it is done otherwise
(`generate_of_rejected`, `generate_of_accepted`). The errors are those found in the mode in which
the rule would be rendered, though they are looked for verbatim. The log has events about edits,
findings and rendering, which are shown on demand only, and one warning. Main statement:
`run_generate_outcome`.
-/

namespace DetectionRule.CommandLine

namespace GenerateOptions

/-- What is found in the rule in the mode in which it is to be rendered. -/
def findings (options : GenerateOptions) (settings : Settings) : List Finding :=
  (options.draft settings).findings (options.mode settings)

def errors (options : GenerateOptions) (settings : Settings) : List Finding :=
  (options.findings settings).filter Finding.isError

def Rejected (options : GenerateOptions) (settings : Settings) : Prop :=
  options.strict = true ∧ options.errors settings ≠ []

instance (options : GenerateOptions) (settings : Settings) :
    Decidable (options.Rejected settings) := inferInstanceAs (Decidable (_ ∧ _))

/-- What stands in the second output before the rule is rendered or turned away. -/
def written (options : GenerateOptions) (settings : Settings) (verbosity : Verbosity)
    (palette : Palette) : String :=
  verbosity.log (editEvents .empty options.edits ++ (options.findings settings).map findingEvent)
    ++ options.notice verbosity palette (options.findings settings)

end GenerateOptions

variable {options : GenerateOptions} {settings : Settings} {verbosity : Verbosity}
  {palette : Palette}

theorem validate_draft (options : GenerateOptions) (settings : Settings) :
    (options.draft settings).validate =
      if options.errors settings = [] then .ok ()
      else .error ⟨(options.header settings).id, options.errors settings⟩ :=
  validate_eq (options.mode settings) _ _

theorem generate_of_rejected (h : options.Rejected settings) :
    generate options settings verbosity palette =
      .failed (options.written settings verbosity palette)
        (.invalid ⟨(options.header settings).id, options.errors settings⟩) := by
  have hinvalid := validate_draft options settings
  rw [if_neg h.2] at hinvalid
  rw [generate, hinvalid, h.1]
  rfl

theorem generate_of_accepted (h : ¬options.Rejected settings) :
    generate options settings verbosity palette =
      { exit := 0
        stdout := options.printed settings
        stderr := options.written settings verbosity palette
          ++ verbosity.log (renderEvents (options.draft settings) (options.mode settings)) } := by
  rw [generate]
  by_cases hstrict : options.strict = true
  · have herrors : options.errors settings = [] := by
      by_contra herrors
      exact h ⟨hstrict, herrors⟩
    have hvalid := validate_draft options settings
    rw [if_pos herrors] at hvalid
    rw [hvalid]
    cases options.strict <;> rfl
  · rw [Bool.not_eq_true] at hstrict
    rw [hstrict]
    rfl

theorem Verbosity.log_eq_empty {events : List Event}
    (h : ∀ event ∈ events, verbosity.shows event.level = false) : verbosity.log events = "" := by
  have hnone : events.filter (fun event => verbosity.shows event.level) = [] := by
    rw [List.filter_eq_nil_iff]
    intro event hevent
    rw [h event hevent]
    exact Bool.false_ne_true
  rw [log, hnone]
  rfl

def Verbosity.warnings : Verbosity := ⟨some .warn⟩

theorem Verbosity.choose_of_none {environment : Environment}
    (hfilter : environment.lookup "RUST_LOG" = none) (hlevel : settings.logLevel = none) :
    Verbosity.choose environment settings = .warnings := by
  rw [choose, hfilter, hlevel]
  decide

theorem level_editEvent? {store : Store} {edit : Edit} {event : Event}
    (h : editEvent? store edit = some event) : event.level = .debug := by
  cases edit with
  | add id =>
    cases h
    rfl
  | update id patch =>
    rw [editEvent?] at h
    split at h <;> cases h <;> rfl
  | setAttribute id attr value =>
    rw [editEvent?] at h
    split at h <;> cases h <;> rfl
  | remove id =>
    rw [editEvent?] at h
    split at h <;> cases h
    rfl

theorem level_of_mem_editEvents {store : Store} {edits : List Edit} {event : Event}
    (h : event ∈ editEvents store edits) : event.level = .debug := by
  induction edits generalizing store with
  | nil => cases h
  | cons edit edits ih =>
    rw [editEvents, List.mem_append, Option.mem_toList] at h
    rcases h with h | h
    · exact level_editEvent? h
    · exact ih h

theorem log_warnings_written (options : GenerateOptions) (settings : Settings) :
    Verbosity.warnings.log
      (editEvents .empty options.edits ++ (options.findings settings).map findingEvent) = "" := by
  apply Verbosity.log_eq_empty
  intro event hevent
  have hlevel : event.level = .debug := by
    rcases List.mem_append.1 hevent with hevent | hevent
    · exact level_of_mem_editEvents hevent
    · obtain ⟨finding, -, rfl⟩ := List.mem_map.1 hevent
      rfl
  rw [hlevel]
  decide

theorem log_warnings_renderEvents (draft : Draft) (mode : TextMode) :
    Verbosity.warnings.log (renderEvents draft mode) = "" := by
  apply Verbosity.log_eq_empty
  intro event hevent
  rw [renderEvents, List.mem_cons, List.mem_singleton] at hevent
  rcases hevent with rfl | rfl <;> rfl

/-! ### Lines of the second output -/

def rejectionLine (id : Int) (errors : List Finding) : String :=
  "error: rule " ++ Text.Decimal.integer id ++ " failed validation: "
    ++ "; ".intercalate (errors.map Finding.message) ++ "\n"

def warningLine (errors : Nat) : String :=
  " WARN rulegen: rule has lint errors; rerun with --lint for details errors="
    ++ Text.Decimal.natural errors ++ "\n"

/-- The two lines of each finding and, where there are any, the numbers of findings and of
errors. -/
def report (palette : Palette) (findings : List Finding) : String :=
  String.join (findings.map (findingLines palette))
    ++ if findings = [] then "" else
      palette.paint .strong (Text.Decimal.natural findings.length) ++ " finding(s), "
        ++ palette.paint .strong (Text.Decimal.natural (findings.filter Finding.isError).length)
        ++ " error(s)\n"

theorem stderr_failed (written : String) (id : Int) (errors : List Finding) :
    (Outcome.failed written (.invalid ⟨id, errors⟩)).stderr
      = written ++ rejectionLine id errors := by
  have hbefore : "error: rule " = "error: " ++ "rule " := by decide
  show written ++ "error: " ++ ("rule " ++ Text.Decimal.integer id ++ " failed validation: "
    ++ "; ".intercalate (errors.map Finding.message)) ++ "\n" = _
  rw [rejectionLine, hbefore]
  simp only [String.append_assoc, -String.reduceAppend]

theorem findingsReport_eq (palette : Palette) (findings : List Finding) :
    findingsReport palette findings = report palette findings := by
  cases findings <;> rfl

theorem line_hiddenErrorsEvent (errors : Nat) :
    (hiddenErrorsEvent errors).line = warningLine errors := by
  have hvisible : Event.visible "rule has lint errors; rerun with --lint for details"
      = "rule has lint errors; rerun with --lint for details" := by cbv
  have hbefore : " WARN" ++ " " ++ "rulegen" ++ ": "
        ++ "rule has lint errors; rerun with --lint for details" ++ (" " ++ "errors" ++ "=")
      = " WARN rulegen: rule has lint errors; rerun with --lint for details errors=" := by decide
  show " WARN" ++ " " ++ "rulegen" ++ ": "
      ++ Event.visible "rule has lint errors; rerun with --lint for details"
      ++ ("" ++ (" " ++ "errors" ++ "=" ++ Text.Decimal.natural errors)) ++ "\n" = _
  rw [hvisible, String.empty_append, ← String.append_assoc, hbefore]
  rfl

theorem log_warnings_hiddenErrors (errors : Nat) :
    Verbosity.warnings.log [hiddenErrorsEvent errors] = warningLine errors := by
  have hlog : Verbosity.warnings.log [hiddenErrorsEvent errors]
      = "" ++ (hiddenErrorsEvent errors).line := rfl
  rw [hlog, String.empty_append, line_hiddenErrorsEvent]

theorem written_warnings (options : GenerateOptions) (settings : Settings) (palette : Palette) :
    options.written settings .warnings palette =
      if options.lint = true then report palette (options.findings settings)
      else if options.errors settings ≠ [] ∧ options.strict = false then
        warningLine (options.errors settings).length
      else "" := by
  have hcount : errorCount (options.findings settings) = (options.errors settings).length := rfl
  rw [GenerateOptions.written, log_warnings_written, String.empty_append, GenerateOptions.notice,
    findingsReport_eq, log_warnings_hiddenErrors, hcount]
  simp [List.length_pos_iff]

/-! ### Whole runs -/

section Run

variable {words : List String} {process : Environment} {file : Option String}

theorem run_eq_generate (accepted : Command.ofWords words = .ok (.generate options))
    (configured :
      Settings.read Settings.defaultStem (process.withFile file).lookup = .ok settings) :
    run words process file =
      generate options settings (.choose (process.withFile file) settings)
        (.choose (process.withFile file)) := by
  rw [run, accepted]
  simp only [configured]
  rfl

theorem run_of_bad_settings {command : Command} {e : SettingError}
    (accepted : Command.ofWords words = .ok command)
    (h : Settings.read Settings.defaultStem (process.withFile file).lookup = .error e) :
    run words process file = .failed "" (.configuration e) := by
  rw [run, accepted]
  simp only [h]

theorem run_of_not_rejected (accepted : Command.ofWords words = .ok (.generate options))
    (configured :
      Settings.read Settings.defaultStem (process.withFile file).lookup = .ok settings)
    (h : ¬options.Rejected settings) :
    (run words process file).exit = 0 ∧
      (run words process file).stdout = options.printed settings := by
  rw [run_eq_generate accepted configured, generate_of_accepted h]
  exact ⟨rfl, rfl⟩

theorem rejected_iff (accepted : Command.ofWords words = .ok (.generate options)) :
    options.Rejected settings ↔ Switch.strict.word ∈ words ∧ options.errors settings ≠ [] :=
  and_congr_left fun _ => Command.isOn_iff_mem .strict accepted

/-- Which exit, which output and what is said, for every accepted command line and every
environment with readable settings. Lines of the log are taken without the time in front of them,
and the handles of conditions are numbered from zero in each run. -/
theorem run_generate_outcome (accepted : Command.ofWords words = .ok (.generate options))
    (configured :
      Settings.read Settings.defaultStem (process.withFile file).lookup = .ok settings) :
    (Switch.strict.word ∈ words ∧ options.errors settings ≠ [] →
        (run words process file).exit = 1 ∧ (run words process file).stdout = "" ∧
        ∃ before, (run words process file).stderr =
          before ++ rejectionLine (options.header settings).id (options.errors settings)) ∧
      (¬(Switch.strict.word ∈ words ∧ options.errors settings ≠ []) →
        (run words process file).exit = 0 ∧
        (run words process file).stdout =
          (run (Switch.strict.dropFrom words) process file).stdout) ∧
      ((process.withFile file).lookup "RUST_LOG" = none → settings.logLevel = none →
        (run words process file).stderr =
          (if Switch.lint.word ∈ words then
            report (.choose (process.withFile file)) (options.findings settings)
          else if options.errors settings ≠ [] ∧ Switch.strict.word ∉ words then
            warningLine (options.errors settings).length
          else "")
          ++ if Switch.strict.word ∈ words ∧ options.errors settings ≠ [] then
            rejectionLine (options.header settings).id (options.errors settings)
          else "") := by
  have hrun := run_eq_generate accepted configured
  simp only [← rejected_iff accepted]
  refine ⟨?_, ?_, ?_⟩
  · intro hrejected
    rw [hrun, generate_of_rejected hrejected, stderr_failed]
    exact ⟨rfl, rfl, _, rfl⟩
  · intro hkept
    have hlenient : ¬(Switch.strict.turnOff options).Rejected settings := fun h => nomatch h.1
    obtain ⟨hexit, hstdout⟩ := run_of_not_rejected accepted configured hkept
    obtain ⟨-, hwithout⟩ :=
      run_of_not_rejected (Command.ofWords_dropFrom .strict accepted) configured hlenient
    rw [hexit, hstdout, hwithout]
    exact ⟨rfl, rfl⟩
  · intro hfilter hlevel
    have hlint : Switch.lint.word ∈ words ↔ options.lint = true :=
      (Command.isOn_iff_mem .lint accepted).symm
    have hstrict : Switch.strict.word ∉ words ↔ options.strict = false := by
      rw [← Command.isOn_iff_mem .strict accepted, Bool.not_eq_true]
      rfl
    simp only [hlint, hstrict]
    rw [hrun, Verbosity.choose_of_none hfilter hlevel, ← written_warnings]
    by_cases hrejected : options.Rejected settings
    · rw [generate_of_rejected hrejected, if_pos hrejected]
      exact stderr_failed _ _ _
    · rw [generate_of_accepted hrejected, if_neg hrejected, log_warnings_renderEvents]

theorem run_generate_outcome_strictRun :
    let words := ["generate", "--level", "20", "-c", "regex[type=glob]=x<y", "--strict", "--lint"]
    let environment : Environment := ⟨[("RULEGEN_ESCAPE", "yes")]⟩
    (run words environment none).exit = 1 ∧ (run words environment none).stdout = "" ∧
      (run words environment none).stderr =
        "error[level_out_of_range]: level 20 is outside 0..=16\n    --> /header/level\n"
          ++ "error[invalid_attribute_value]: <regex> type=\"glob\" is not one of "
          ++ "osmatch|sregex|pcre2\n    --> /conditions/0/attributes/type\n"
          ++ "2 finding(s), 2 error(s)\n"
          ++ "error: rule 100100 failed validation: level 20 is outside 0..=16; "
          ++ "<regex> type=\"glob\" is not one of osmatch|sregex|pcre2\n" := by
  intro words environment
  have accepted : Command.ofWords words = .ok (.generate
      ⟨none, some 20, none, none, [⟨.regex, [(.type, "glob")], "x<y"⟩], false, true, true,
        none⟩) := by
    decide
  have configured : Settings.read Settings.defaultStem (environment.withFile none).lookup
      = .ok { escapeOutput := true } := by
    decide
  obtain ⟨hrejected, -, hstderr⟩ := run_generate_outcome accepted configured
  obtain ⟨hexit, hstdout, -⟩ := hrejected (by decide)
  refine ⟨hexit, hstdout, ?_⟩
  rw [hstderr (by decide) rfl]
  decide +kernel

end Run

end DetectionRule.CommandLine
