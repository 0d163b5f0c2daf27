import DetectionRule.CommandLine.Command
import DetectionRule.CommandLine.Failure
import DetectionRule.CommandLine.Report
import DetectionRule.CommandLine.SettingsFile

/-!
# A run of the program

A run takes the words of the command line and the environment, and gives an exit code and what is
written to the two outputs. The words are read first, then the settings; a fault in either ends the
run before the command does anything.
-/

namespace DetectionRule.CommandLine

structure Outcome where
  exit : Nat
  stdout : String := ""
  stderr : String := ""
deriving DecidableEq

def usage : String :=
  "Assemble detection rules and render them as engine XML\n\n"
    ++ "Usage: rulegen generate [OPTIONS]\n"
    ++ "       rulegen tags\n"
    ++ "       rulegen version\n\n"
    ++ "Options of generate:\n"
    ++ "      --id <ID>\n"
    ++ "      --level <LEVEL>\n"
    ++ "      --frequency <FREQUENCY>\n"
    ++ "      --timeframe <TIMEFRAME>\n"
    ++ "  -c, --condition <CONDITION>\n"
    ++ "      --escape\n"
    ++ "      --lint\n"
    ++ "      --strict\n"
    ++ "      --format <xml|json>\n"

namespace Outcome

def ofStop : Stop → Outcome
  | .usage e => { exit := 2, stderr := "error: " ++ e.message ++ "\n\n" ++ usage }
  | .help => { exit := 0, stdout := usage }

def failed (written : String) (failure : Failure) : Outcome where
  exit := 1
  stderr := written ++ "error: " ++ failure.message ++ "\n"

end Outcome

namespace GenerateOptions

/-- Options come before settings; counts come from options only. -/
def header (options : GenerateOptions) (settings : Settings) : Header where
  id := options.id.getD settings.ruleId
  level := options.level.getD settings.level
  frequency := options.frequency
  timeframe := options.timeframe

def editsFrom (index : Nat) : List Argument → List Edit
  | [] => []
  | argument :: arguments => argument.edits ⟨index⟩ ++ editsFrom (index + 1) arguments

def edits (options : GenerateOptions) : List Edit := editsFrom 0 options.conditions

def draft (options : GenerateOptions) (settings : Settings) : Draft where
  header := options.header settings
  store := Store.empty.run options.edits

def mode (options : GenerateOptions) (settings : Settings) : TextMode :=
  if options.escape || settings.escapeOutput then .escaped else .verbatim

def printed (options : GenerateOptions) (settings : Settings) : String :=
  let draft := options.draft settings
  let mode := options.mode settings
  match options.format.getD .xml with
  | .xml => draft.render mode ++ "\n"
  | .json =>
    (document draft mode (if options.lint then some (draft.findings mode) else none)).sorted.pretty
      ++ "\n"

/-- What is said about findings: all of them where they are asked for, else a warning about errors
unless these are going to end the run. -/
def notice (options : GenerateOptions) (verbosity : Verbosity) (palette : Palette)
    (findings : List Finding) : String :=
  if options.lint then findingsReport palette findings
  else if errorCount findings > 0 && !options.strict then
    verbosity.log [hiddenErrorsEvent (errorCount findings)]
  else ""

end GenerateOptions

/-- The findings are told first; a strict run then ends at an error, and any other prints
(`generate`). -/
def generate (options : GenerateOptions) (settings : Settings) (verbosity : Verbosity)
    (palette : Palette) : Outcome :=
  let draft := options.draft settings
  let mode := options.mode settings
  let findings := draft.findings mode
  let written :=
    verbosity.log (editEvents .empty options.edits ++ findings.map findingEvent)
      ++ options.notice verbosity palette findings
  match options.strict, draft.validate with
  | true, .error rejection => .failed written (.invalid rejection)
  | _, _ =>
    { exit := 0
      stdout := options.printed settings
      stderr := written ++ verbosity.log (renderEvents draft mode) }

def Command.run (command : Command) (settings : Settings) (verbosity : Verbosity)
    (palette : Palette) : Outcome :=
  match command with
  | .generate options => CommandLine.generate options settings verbosity palette
  | .tags => { exit := 0, stdout := tagsReport palette }
  | .version => { exit := 0, stdout := "rulegen v0.1.0\n" }

/-- Runs the program on the words behind its name, with the variables of the process and the text
of the settings file (`run`, `load_config`). -/
def run (words : List String) (process : Environment) (file : Option String) : Outcome :=
  match Command.ofWords words with
  | .error stop => .ofStop stop
  | .ok command =>
    let environment := process.withFile file
    match Settings.read Settings.defaultStem environment.lookup with
    | .error e => .failed "" (.configuration e)
    | .ok settings =>
      command.run settings (.choose environment settings) (.choose environment)

def variableNames : List String :=
  ["LOG", "DEFAULT_ID", "DEFAULT_LEVEL", "ESCAPE"].map (Settings.defaultStem ++ ·)
    ++ ["RUST_LOG", "CLICOLOR_FORCE"]

end DetectionRule.CommandLine
