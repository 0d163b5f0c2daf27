import DetectionRule.Json.Printer
import DetectionRule.Rule.Checks
import DetectionRule.Rule.Document
import DetectionRule.Rule.Store

/-!
# Drafts

A draft is a rule under construction: a header and the conditions added so far. Its JSON document
leaves out the counts that are absent; tags and attributes have the names that they have in the
rendered rule, and the attributes of a condition are members in the order in which they are
stored.
-/

namespace DetectionRule

/-- A header with the store of conditions that belongs to it (`RuleDraft`). -/
structure Draft where
  header : Header := .default
  store : Store := .empty
deriving DecidableEq

namespace Draft

def conditions (draft : Draft) : List Condition := draft.store.conditions

def render (draft : Draft) (mode : TextMode) : String :=
  DetectionRule.render mode draft.header draft.conditions

def findings (draft : Draft) (mode : TextMode) : List Finding :=
  DetectionRule.findings mode draft.header draft.conditions

def validate (draft : Draft) : Except Rejection Unit :=
  DetectionRule.validate draft.header draft.conditions

end Draft

def Header.countMember (name : String) : Option Nat → List (String × Json)
  | some count => [(name, .number count)]
  | none => []

def Header.toJson (header : Header) : Json :=
  .object ([("id", .number header.id), ("level", .number header.level)]
    ++ Header.countMember "frequency" header.frequency
    ++ Header.countMember "timeframe" header.timeframe)

def Attributes.toJson (stored : Attributes) : Json :=
  .object (stored.entries.map fun entry => (entry.1.text, .text entry.2))

def Condition.toJson (condition : Condition) : Json :=
  .object
    [("id", .text condition.id.text), ("tag", .text condition.tag.text),
     ("value", .text condition.value), ("attributes", condition.attributes.toJson)]

def Draft.toJson (draft : Draft) : Json :=
  .object
    [("header", draft.header.toJson),
     ("conditions", .array (draft.conditions.map Condition.toJson))]

def Finding.toJson (finding : Finding) : Json :=
  .object
    ([("rule", .text finding.check.name), ("severity", .text finding.severity.name),
      ("message", .text finding.message), ("path", .text finding.path)]
      ++ match finding.condition? with
         | some id => [("condition", .text id.text)]
         | none => [])

end DetectionRule
