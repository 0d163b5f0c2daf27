import DetectionRule.CommandLine.Settings
import DetectionRule.Rule.Checks
import DetectionRule.Vocabulary.Reader

/-!
# Failures as they are reported

What ends a run or a reading, each kind with the words that go before its message.
-/

namespace DetectionRule

/-- What a run may fail with (`RulegenError`, `RuleError`). -/
inductive Failure
  | serialization (e : UnknownVariant)
  | configuration (e : SettingError)
  | invalid (rejection : Rejection)
deriving DecidableEq

def Failure.message : Failure → String
  | serialization e => "serialization error: " ++ e.message
  | configuration e => "configuration error: " ++ e.message
  | invalid rejection => rejection.message

end DetectionRule
