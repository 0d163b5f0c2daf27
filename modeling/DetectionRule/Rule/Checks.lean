import DetectionRule.Markup
import DetectionRule.Rule.Finding

/-!
# Checking a rule

Rendering takes any rule; the checks report what the engine would refuse or misread. Findings come
in the order of the document: the header, then each condition. A rule is valid when no finding is an
error; the way texts are escaped changes only the warnings about markup.
-/

namespace DetectionRule

/-- One of the two counts of a correlation rule does nothing without the other. -/
def Header.loneCount (header : Header) : List HeaderFault :=
  match header.frequency, header.timeframe with
  | some _, none => [.frequencyAlone]
  | none, some _ => [.timeframeAlone]
  | _, _ => []

/-- The faults of a header in the order in which they are looked for (`lint_header`). -/
def Header.faults (header : Header) : List HeaderFault :=
  (if header.id ≤ 0 then [.nonPositiveId header.id] else [])
    ++ (if header.level < Header.minLevel ∨ Header.maxLevel < header.level then
          [.levelOutOfRange header.level] else [])
    ++ (if header.frequency = some 0 then [.zeroFrequency] else [])
    ++ (if header.timeframe = some 0 then [.zeroTimeframe] else [])
    ++ header.loneCount

namespace Condition

def invalidAttributes (condition : Condition) : List (Attribute × String) :=
  condition.attributes.entries.filter fun entry =>
    condition.tag.takes entry.1 && !entry.1.admits entry.2

def markupFaults (condition : Condition) : List ConditionFault :=
  (if Markup.occursIn condition.value then [.markupInValue] else [])
    ++ (condition.attributes.entries.filter fun entry =>
          !condition.tag.isContentOnly && Markup.occursIn entry.2).map
        fun entry => .markupInAttribute entry.1

/-- The faults of a condition in the order in which they are looked for (`lint_condition`). -/
def faults (mode : TextMode) (condition : Condition) : List ConditionFault :=
  condition.misplaced.map .misplacedAttribute
    ++ condition.invalidAttributes.map (fun entry => .invalidValue entry.1 entry.2)
    ++ (if mode = .verbatim then condition.markupFaults else [])
    ++ (if condition.value = "" then [.emptyValue] else [])

def findings (mode : TextMode) (index : Nat) (condition : Condition) : List Finding :=
  (condition.faults mode).map (.condition index condition.id condition.tag)

end Condition

/-- What is found in a rule that is to be rendered in the mode (`lint_with`). -/
def findings (mode : TextMode) (header : Header) (conditions : List Condition) : List Finding :=
  header.faults.map .header
    ++ (if conditions.isEmpty then [.noConditions] else [])
    ++ conditions.zipIdx.flatMap fun entry => entry.1.findings mode entry.2

/-- Why a rule is not valid: the errors found in it, of which there is one at least (`Invalid`). -/
structure Rejection where
  ruleId : Int
  findings : List Finding
deriving DecidableEq

/-- The messages of the errors, one after the other (`summarize`). -/
def Rejection.message (rejection : Rejection) : String :=
  "rule " ++ Text.Decimal.integer rejection.ruleId ++ " failed validation: "
    ++ "; ".intercalate (rejection.findings.map Finding.message)

/-- Errors are looked for as in verbatim output, whatever the mode of the rule (`validate`). -/
def validate (header : Header) (conditions : List Condition) : Except Rejection Unit :=
  match (findings .verbatim header conditions).filter Finding.isError with
  | [] => .ok ()
  | errors => .error ⟨header.id, errors⟩

end DetectionRule
