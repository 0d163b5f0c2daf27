/-!
# The header of a rule

The number of the rule, its level, and the two optional counts of a correlation rule: how often and
within how many seconds. Numbers are taken as they are; the checks say which ones the engine
refuses.
-/

namespace DetectionRule

/-- What the start tag of a rule carries (`RuleHeader`). -/
structure Header where
  id : Int := 100100
  level : Int := 5
  frequency : Option Nat := none
  timeframe : Option Nat := none
deriving DecidableEq

namespace Header

def default : Header := {}

def minLevel : Int := 0

def maxLevel : Int := 16

/-- New values for fields of a header; a count may be taken away. -/
structure Change where
  id : Option Int := none
  level : Option Int := none
  frequency : Option (Option Nat) := none
  timeframe : Option (Option Nat) := none
deriving DecidableEq

def apply (header : Header) (change : Change) : Header where
  id := change.id.getD header.id
  level := change.level.getD header.level
  frequency := change.frequency.getD header.frequency
  timeframe := change.timeframe.getD header.timeframe

end Header

end DetectionRule
