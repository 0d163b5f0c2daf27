import DetectionRule.Condition.Argument
import DetectionRule.Text.Decimal

/-!
# Commands

The words of a command line name one of three commands. `generate` takes options: some with a value,
which follows as the next word or behind an equals sign, and some without. Each option may be given
once, conditions as often as wanted. Reading stops at the first word that does not fit
(specification, 12).
-/

namespace DetectionRule.CommandLine

inductive Format
  | xml
  | json
deriving DecidableEq

/-- The options of `generate`, each as far as it is given (`GenerateArgs`). -/
structure GenerateOptions where
  id : Option Int := none
  level : Option Int := none
  frequency : Option Nat := none
  timeframe : Option Nat := none
  conditions : List Argument := []
  escape : Bool := false
  lint : Bool := false
  strict : Bool := false
  format : Option Format := none
deriving DecidableEq

inductive Command
  | generate (options : GenerateOptions)
  | tags
  | version
deriving DecidableEq

inductive UsageError
  | missingCommand
  | unknownCommand (word : String)
  | unexpectedWord (word : String)
  | missingValue (option : String)
  | invalidValue (option value : String)
  | invalidCondition (e : ArgumentError)
  | repeated (option : String)
deriving DecidableEq

def UsageError.message : UsageError → String
  | missingCommand => "a command is needed: generate, tags or version"
  | unknownCommand word => "unknown command '" ++ word ++ "'"
  | unexpectedWord word => "unexpected argument '" ++ word ++ "'"
  | missingValue option => "a value is needed for '--" ++ option ++ "'"
  | invalidValue option value => "invalid value '" ++ value ++ "' for '--" ++ option ++ "'"
  | invalidCondition e => e.message
  | repeated option => "'--" ++ option ++ "' may be given only once"

inductive Stop
  | usage (e : UsageError)
  | help
deriving DecidableEq

/-! ### Options with and without a value -/

inductive Valued
  | id
  | level
  | frequency
  | timeframe
  | condition
  | format
deriving DecidableEq

inductive Switch
  | escape
  | lint
  | strict
deriving DecidableEq

namespace Valued

def all : List Valued := [id, level, frequency, timeframe, condition, format]

def name : Valued → String
  | id => "id"
  | level => "level"
  | frequency => "frequency"
  | timeframe => "timeframe"
  | condition => "condition"
  | format => "format"

def ofName? (s : String) : Option Valued := all.find? fun option => option.name == s

/-- A word may follow as the value when it does not begin with a dash, or is the dash alone; a
negative number may follow where one makes sense. -/
def takes (option : Valued) (word : String) : Bool :=
  match word.toList with
  | '-' :: [] => true
  | '-' :: c :: _ => c.isDigit && (option = id || option = level)
  | _ => true

/-- The given value in an option not yet given. -/
def once {α : Type} (option : Valued) (old : Option α) (value : String) (new : Option α) :
    Except Stop (Option α) :=
  match old, new with
  | none, some new => .ok (some new)
  | none, none => .error (.usage (.invalidValue option.name value))
  | some _, _ => .error (.usage (.repeated option.name))

def readFormat? (s : String) : Option Format :=
  if s = "xml" then some .xml else if s = "json" then some .json else none

def store (option : Valued) (options : GenerateOptions) (value : String) :
    Except Stop GenerateOptions :=
  match option with
  | id =>
    (once id options.id value (Text.Decimal.readSigned value.toList).toOption).map
      fun id => { options with id }
  | level =>
    (once level options.level value (Text.Decimal.readSigned value.toList).toOption).map
      fun level => { options with level }
  | frequency =>
    (once frequency options.frequency value (Text.Decimal.readUnsigned value.toList).toOption).map
      fun frequency => { options with frequency }
  | timeframe =>
    (once timeframe options.timeframe value (Text.Decimal.readUnsigned value.toList).toOption).map
      fun timeframe => { options with timeframe }
  | format =>
    (once format options.format value (readFormat? value)).map fun format => { options with format }
  | condition =>
    match Argument.parse value with
    | .ok argument => .ok { options with conditions := options.conditions ++ [argument] }
    | .error e => .error (.usage (.invalidCondition e))

end Valued

namespace Switch

def all : List Switch := [escape, lint, strict]

def name : Switch → String
  | escape => "escape"
  | lint => "lint"
  | strict => "strict"

def ofName? (s : String) : Option Switch := all.find? fun option => option.name == s

def turnOn (option : Switch) (options : GenerateOptions) : Except Stop GenerateOptions :=
  let repeated : Except Stop GenerateOptions := .error (.usage (.repeated option.name))
  match option with
  | escape => if options.escape then repeated else .ok { options with escape := true }
  | lint => if options.lint then repeated else .ok { options with lint := true }
  | strict => if options.strict then repeated else .ok { options with strict := true }

end Switch

inductive Word
  | endOfOptions
  | long (name : String) (value : Option String)
  | conditionOption (value : Option String)
  | help
  | other
deriving DecidableEq

/-- Two dashes begin a long option, one dash a short one: `c` for a condition, whose value may
follow at once, and `h` for help. -/
def Word.ofString (word : String) : Word :=
  match word.toList with
  | '-' :: '-' :: [] => .endOfOptions
  | '-' :: '-' :: cs =>
    match String.ofList (Text.before (· = '=') cs), Text.fromFirst (· = '=') cs with
    | "help", [] => .help
    | name, [] => .long name none
    | name, _ :: value => .long name (some (String.ofList value))
  | '-' :: 'c' :: [] => .conditionOption none
  | '-' :: 'c' :: '=' :: cs => .conditionOption (some (String.ofList cs))
  | '-' :: 'c' :: cs => .conditionOption (some (String.ofList cs))
  | '-' :: 'h' :: _ => .help
  | _ => .other

/-! ### Options of `generate` -/

inductive Expected
  | option
  | value (option : Valued)
  | nothing
deriving DecidableEq

structure Reading where
  options : GenerateOptions := {}
  expected : Expected := .option
deriving DecidableEq

namespace Reading

def unexpected (word : String) : Except Stop Reading := .error (.usage (.unexpectedWord word))

def valued (options : GenerateOptions) (option : Valued) : Option String → Except Stop Reading
  | some value => (option.store options value).map fun options => { options }
  | none => .ok { options, expected := .value option }

def long (options : GenerateOptions) (word name : String) (value : Option String) :
    Except Stop Reading :=
  match Valued.ofName? name, Switch.ofName? name, value with
  | some option, _, value => valued options option value
  | none, some switch, none => (switch.turnOn options).map fun options => { options }
  | none, _, _ => unexpected word

def read (reading : Reading) (word : String) : Except Stop Reading :=
  match reading.expected with
  | .nothing => unexpected word
  | .value option =>
    if option.takes word then valued reading.options option (some word)
    else .error (.usage (.missingValue option.name))
  | .option =>
    match Word.ofString word with
    | .endOfOptions => .ok { reading with expected := .nothing }
    | .long name value => long reading.options word name value
    | .conditionOption value => valued reading.options .condition value
    | .help => .error .help
    | .other => unexpected word

def finish (reading : Reading) : Except Stop GenerateOptions :=
  match reading.expected with
  | .value option => .error (.usage (.missingValue option.name))
  | _ => .ok reading.options

end Reading

def readOptions (words : List String) : Except Stop GenerateOptions := do
  (← words.foldlM Reading.read {}).finish

def readNone : List String → Except Stop Unit
  | [] => .ok ()
  | word :: words =>
    match Word.ofString word, words with
    | .help, _ => .error .help
    | .endOfOptions, [] => .ok ()
    | .endOfOptions, word :: _ => .error (.usage (.unexpectedWord word))
    | _, _ => .error (.usage (.unexpectedWord word))

def Command.ofWords : List String → Except Stop Command
  | [] => .error (.usage .missingCommand)
  | "generate" :: words => (readOptions words).map .generate
  | "tags" :: words => (readNone words).map fun () => .tags
  | "version" :: words => (readNone words).map fun () => .version
  | "help" :: words =>
    match words with
    | [] => .error .help
    | ["generate"] | ["tags"] | ["version"] | ["help"] => .error .help
    | word :: _ => .error (.usage (.unknownCommand word))
  | word :: _ =>
    match Word.ofString word with
    | .help => .error .help
    | _ => .error (.usage (.unknownCommand word))

end DetectionRule.CommandLine
