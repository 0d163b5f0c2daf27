import DetectionRule.CommandLine.Run

/-!
# The program

Reads the words, the settings file and the variables, runs, and writes what the run gives.
-/

open DetectionRule.CommandLine

/-- The text of the first file `.env` that can be read, from the directory at the path upwards.
There are `depth` directories above it. -/
def settingsFileFrom : (depth : Nat) → (path : String) → IO (Option String)
  | 0, path => readIfPresent path
  | depth + 1, path => do
    match ← readIfPresent path with
    | some text => return some text
    | none => settingsFileFrom depth (path ++ "../")
where
  readIfPresent (path : String) : IO (Option String) := do
    try
      return some (← IO.FS.readFile (path ++ ".env"))
    catch _ =>
      return none

def settingsFile : IO (Option String) := do
  let directory ← IO.currentDir
  settingsFileFrom (directory.toString.toList.count '/') ""

/-- The variables of the process that a run looks at, or that the settings file refers to. -/
def processEnvironment (file : Option String) : IO Environment := do
  let names := variableNames ++ SettingsFile.mentioned (file.getD "").toList
  let values ← names.mapM fun name => return (← IO.getEnv name).map fun value => (name, value)
  return ⟨values.filterMap id⟩

def main (words : List String) : IO UInt32 := do
  let file ← settingsFile
  let outcome := run words (← processEnvironment file) file
  (← IO.getStderr).putStr outcome.stderr
  (← IO.getStdout).putStr outcome.stdout
  return outcome.exit.toUInt32
