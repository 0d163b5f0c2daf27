import DetectionRule.Rule.Header
import DetectionRule.Text.Blank
import DetectionRule.Text.Decimal
import DetectionRule.Text.Quoted

/-!
# Settings from environment variables

Four variables with a common beginning set the log level, the number and level of a rule that is
given neither, and whether texts are escaped. An absent or blank variable leaves its default. The
variables are read in a fixed order, and the first with a bad value is the error; the log level is
taken as it stands, so it is never one (specification, 10.4).
-/

namespace DetectionRule

structure Settings where
  logLevel : Option String := none
  ruleId : Int := Header.default.id
  level : Int := Header.default.level
  escapeOutput : Bool := false
deriving DecidableEq

inductive SettingFault
  | integer (fault : Text.Decimal.Fault)
  | notAFlag
deriving DecidableEq

def SettingFault.reason : SettingFault → String
  | integer fault => fault.message
  | notAFlag => "expected a boolean flag"

/-- The variable at fault, with its text as it was given (`InvalidEnvVar`). -/
structure SettingError where
  name : String
  value : String
  fault : SettingFault
deriving DecidableEq

def SettingError.message (e : SettingError) : String :=
  "invalid value " ++ Text.quote e.value ++ " for environment variable " ++ e.name ++ ": "
    ++ e.fault.reason

namespace Settings

/-- An integer with blanks around it; nothing where the text is blank (`parse_integer`). -/
def readInteger (value : String) : Except Text.Decimal.Fault (Option Int) :=
  match Text.trimChars value.toList with
  | [] => .ok none
  | cs => (Text.Decimal.readSigned cs).map some

/-- A flag word in either case with blanks around it; blank is off (`parse_flag`). -/
def readFlag? (value : String) : Option Bool :=
  let word := String.ofList ((Text.trimChars value.toList).map Char.toLower)
  if ["1", "true", "yes", "on"].contains word then some true
  else if ["0", "false", "no", "off", ""].contains word then some false
  else none

def integerOr (default : Int) (name : String) :
    Option String → Except SettingError Int
  | none => .ok default
  | some value =>
    match readInteger value with
    | .ok n => .ok (n.getD default)
    | .error fault => .error ⟨name, value, .integer fault⟩

def flag (name : String) : Option String → Except SettingError Bool
  | none => .ok false
  | some value =>
    match readFlag? value with
    | some b => .ok b
    | none => .error ⟨name, value, .notAFlag⟩

def defaultStem : String := "RULEGEN_"

/-- The variables one after the other, up to the first that is at fault (`from_lookup`). -/
def read (stem : String) (lookup : String → Option String) : Except SettingError Settings := do
  let ruleId ← integerOr Header.default.id (stem ++ "DEFAULT_ID") (lookup (stem ++ "DEFAULT_ID"))
  let level ←
    integerOr Header.default.level (stem ++ "DEFAULT_LEVEL") (lookup (stem ++ "DEFAULT_LEVEL"))
  let escapeOutput ← flag (stem ++ "ESCAPE") (lookup (stem ++ "ESCAPE"))
  return {
    logLevel := (lookup (stem ++ "LOG")).filter fun value => !Text.isBlankText value
    ruleId, level, escapeOutput }

end Settings

end DetectionRule
