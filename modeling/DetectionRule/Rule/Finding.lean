import DetectionRule.Condition.Basic
import DetectionRule.Rule.Header
import DetectionRule.Text.Decimal

/-!
# Findings about a rule

A finding says what is wrong, and where. The check that made it, its severity, its wording and the
path to the place are functions of the finding, so that two findings of one cause read alike. The
checks are those of section 11.1 of the specification.
-/

namespace DetectionRule

/-- The rules that a finding may be about (`LintRule`). -/
inductive Check
  | levelOutOfRange
  | nonPositiveId
  | nonPositiveFrequency
  | nonPositiveTimeframe
  | frequencyWithoutTimeframe
  | timeframeWithoutFrequency
  | noConditions
  | attributeNotAllowed
  | invalidAttributeValue
  | unescapedMarkup
  | emptyValue
deriving DecidableEq

def Check.name : Check → String
  | levelOutOfRange => "level_out_of_range"
  | nonPositiveId => "non_positive_id"
  | nonPositiveFrequency => "non_positive_frequency"
  | nonPositiveTimeframe => "non_positive_timeframe"
  | frequencyWithoutTimeframe => "frequency_without_timeframe"
  | timeframeWithoutFrequency => "timeframe_without_frequency"
  | noConditions => "no_conditions"
  | attributeNotAllowed => "attribute_not_allowed"
  | invalidAttributeValue => "invalid_attribute_value"
  | unescapedMarkup => "unescaped_markup"
  | emptyValue => "empty_value"

inductive Severity
  | error
  | warning
  | info
deriving DecidableEq

def Severity.name : Severity → String
  | error => "error"
  | warning => "warning"
  | info => "info"

/-- The engine refuses what an error is about; the rest it reads, perhaps not as meant. -/
def Check.severity : Check → Severity
  | levelOutOfRange | nonPositiveId | nonPositiveFrequency | nonPositiveTimeframe
  | invalidAttributeValue => .error
  | frequencyWithoutTimeframe | timeframeWithoutFrequency | attributeNotAllowed
  | unescapedMarkup => .warning
  | noConditions | emptyValue => .info

inductive HeaderFault
  | nonPositiveId (id : Int)
  | levelOutOfRange (level : Int)
  | zeroFrequency
  | zeroTimeframe
  | frequencyAlone
  | timeframeAlone
deriving DecidableEq

namespace HeaderFault

def check : HeaderFault → Check
  | nonPositiveId _ => .nonPositiveId
  | levelOutOfRange _ => .levelOutOfRange
  | zeroFrequency => .nonPositiveFrequency
  | zeroTimeframe => .nonPositiveTimeframe
  | frequencyAlone => .frequencyWithoutTimeframe
  | timeframeAlone => .timeframeWithoutFrequency

def field : HeaderFault → String
  | nonPositiveId _ => "id"
  | levelOutOfRange _ => "level"
  | zeroFrequency | frequencyAlone => "frequency"
  | zeroTimeframe | timeframeAlone => "timeframe"

def message : HeaderFault → String
  | nonPositiveId id => "rule id must be positive, got " ++ Text.Decimal.integer id
  | levelOutOfRange level =>
    "level " ++ Text.Decimal.integer level ++ " is outside " ++ Text.Decimal.integer Header.minLevel
      ++ "..=" ++ Text.Decimal.integer Header.maxLevel
  | zeroFrequency => "frequency must be at least 1"
  | zeroTimeframe => "timeframe must be at least 1 second"
  | frequencyAlone => "frequency has no effect without a timeframe"
  | timeframeAlone => "timeframe has no effect without a frequency"

end HeaderFault

inductive ConditionFault
  | misplacedAttribute (attr : Attribute)
  | invalidValue (attr : Attribute) (value : String)
  | markupInValue
  | markupInAttribute (attr : Attribute)
  | emptyValue
deriving DecidableEq

namespace ConditionFault

def check : ConditionFault → Check
  | misplacedAttribute _ => .attributeNotAllowed
  | invalidValue _ _ => .invalidAttributeValue
  | markupInValue | markupInAttribute _ => .unescapedMarkup
  | emptyValue => .emptyValue

def steps : ConditionFault → List String
  | misplacedAttribute attr | invalidValue attr _ | markupInAttribute attr =>
    ["attributes", attr.text]
  | markupInValue | emptyValue => ["value"]

/-- What the rendered rule makes of an attribute that the tag does not take. -/
def fate (tag : Tag) : String := if tag.isContentOnly then "dropped" else "emitted anyway"

def message (tag : Tag) : ConditionFault → String
  | misplacedAttribute attr =>
    "<" ++ tag.text ++ "> does not take a '" ++ attr.text ++ "' attribute; it will be " ++ fate tag
  | invalidValue attr value =>
    "<" ++ tag.text ++ "> " ++ attr.text ++ "=\"" ++ value ++ "\" is not one of "
      ++ "|".intercalate (attr.values?.getD [])
  | markupInValue =>
    "<" ++ tag.text ++ "> content contains markup characters that are written verbatim"
  | markupInAttribute attr =>
    "<" ++ tag.text ++ "> " ++ attr.text
      ++ " contains markup characters that are written verbatim"
  | emptyValue => "<" ++ tag.text ++ "> has no content"

end ConditionFault

/-! ### Findings -/

/-- A finding, as all that its wording and its path are made from (`LintWarning`). -/
inductive Finding
  | header (fault : HeaderFault)
  | noConditions
  | condition (index : Nat) (id : Handle) (tag : Tag) (fault : ConditionFault)
deriving DecidableEq

namespace Finding

def check : Finding → Check
  | header fault => fault.check
  | noConditions => .noConditions
  | condition _ _ _ fault => fault.check

def severity (finding : Finding) : Severity := finding.check.severity

def isError (finding : Finding) : Bool := finding.severity = .error

def message : Finding → String
  | header fault => fault.message
  | noConditions => "rule has no conditions"
  | condition _ _ tag fault => fault.message tag

/-- The way from the whole draft to the place, one member name or index a step. -/
def steps : Finding → List String
  | header fault => ["header", fault.field]
  | noConditions => ["conditions"]
  | condition index _ _ fault => "conditions" :: Text.Decimal.natural index :: fault.steps

def path (finding : Finding) : String := String.join (finding.steps.map fun step => "/" ++ step)

def condition? : Finding → Option Handle
  | condition _ id _ _ => some id
  | _ => none

def display (finding : Finding) : String :=
  finding.severity.name ++ "[" ++ finding.check.name ++ "]: " ++ finding.message ++ "\n    --> "
    ++ finding.path

end Finding

end DetectionRule
