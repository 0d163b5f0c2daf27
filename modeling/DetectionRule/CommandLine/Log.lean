import DetectionRule.CommandLine.Environment
import DetectionRule.CommandLine.Settings

/-!
# The log

A run tells what it does as events, each with a level. The verbosity says which levels are shown. A
shown event is one line: the level set right in five columns, where the event comes from, what
happened, and the fields as `name=value`. The time that the program writes in front of it is left
out.
-/

namespace DetectionRule.CommandLine

inductive Level
  | error
  | warn
  | info
  | debug
  | trace
deriving DecidableEq

namespace Level

def rank : Level → Nat
  | error => 1
  | warn => 2
  | info => 3
  | debug => 4
  | trace => 5

def label : Level → String
  | error => "ERROR"
  | warn => " WARN"
  | info => " INFO"
  | debug => "DEBUG"
  | trace => "TRACE"

def words : List (String × Level) :=
  [("error", error), ("warn", warn), ("info", info), ("debug", debug), ("trace", trace),
   ("1", error), ("2", warn), ("3", info), ("4", debug), ("5", trace)]

end Level

/-- The least urgent level that is shown; where there is none, nothing is. -/
structure Verbosity where
  least : Option Level
deriving DecidableEq

namespace Verbosity

def shows (verbosity : Verbosity) (level : Level) : Bool :=
  match verbosity.least with
  | some least => level.rank ≤ least.rank
  | none => false

/-- A level word in either case; any other word, `off` among them, shows nothing. Plain words alone
are read: one that sets the level of a single source, such as `rulegen=debug`, shows events in the
program and is left out here. -/
def ofWord (word : String) : Verbosity :=
  ⟨Level.words.lookup (String.ofList (word.toList.map Char.toLower))⟩

/-- A filter in the environment comes before the setting; without either, warnings are shown. An
empty filter shows errors (`init_tracing`). -/
def choose (environment : Environment) (settings : Settings) : Verbosity :=
  match environment.lookup "RUST_LOG" with
  | some "" => ⟨some .error⟩
  | some word => ofWord word
  | none => ofWord (settings.logLevel.getD "warn")

end Verbosity

structure Event where
  level : Level
  source : String
  message : String
  fields : List (String × String) := []
deriving DecidableEq

namespace Event

/-- A control character that a terminal would act on, as its code; any other as itself. -/
def encodeChar (c : Char) : List Char :=
  match c with
  | '\x07' => ['\\', 'x', '0', '7']
  | '\x08' => ['\\', 'x', '0', '8']
  | '\x0c' => ['\\', 'x', '0', 'c']
  | '\x1b' => ['\\', 'x', '1', 'b']
  | '\x7f' => ['\\', 'x', '7', 'f']
  | c =>
    if 0x80 ≤ c.toNat ∧ c.toNat ≤ 0x9f then
      '\\' :: 'u' :: '\x7b' :: (Nat.toDigits 16 c.toNat ++ ['\x7d'])
    else [c]

def visible (message : String) : String := String.ofList (message.toList.flatMap encodeChar)

def line (event : Event) : String :=
  event.level.label ++ " " ++ event.source ++ ": " ++ visible event.message
    ++ String.join (event.fields.map fun field => " " ++ field.1 ++ "=" ++ field.2) ++ "\n"

end Event

def Verbosity.log (verbosity : Verbosity) (events : List Event) : String :=
  String.join ((events.filter fun event => verbosity.shows event.level).map Event.line)

end DetectionRule.CommandLine
