import DetectionRule.CommandLine.Colour
import DetectionRule.CommandLine.Log
import DetectionRule.Rule.Draft

/-!
# What a run reports

Findings for a reader, the list of tags, the JSON document of a rule, and the events of the log.
-/

namespace DetectionRule.CommandLine

def findingLines (palette : Palette) (finding : Finding) : String :=
  palette.paint (.severity finding.severity) finding.severity.name ++ "[" ++ finding.check.name
    ++ "]: " ++ finding.message ++ "\n    " ++ palette.paint .arrow "-->" ++ " " ++ finding.path
    ++ "\n"

def errorCount (findings : List Finding) : Nat := (findings.filter Finding.isError).length

def summaryLine (palette : Palette) (findings : List Finding) : String :=
  palette.paint .strong (Text.Decimal.natural findings.length) ++ " finding(s), "
    ++ palette.paint .strong (Text.Decimal.natural (errorCount findings)) ++ " error(s)\n"

/-- All findings, and how many there are (`print_lint`). -/
def findingsReport (palette : Palette) (findings : List Finding) : String :=
  String.join (findings.map (findingLines palette))
    ++ if findings.isEmpty then "" else summaryLine palette findings

def attributeUsage (attr : Attribute) : String :=
  match attr.values? with
  | some values => attr.text ++ "=" ++ "|".intercalate values
  | none => attr.text ++ "=<text>"

def tagLine (palette : Palette) (tag : Tag) : String :=
  palette.paint .strong tag.text
    ++ (if tag.attributes.isEmpty then "" else
          "  [" ++ ", ".intercalate (tag.attributes.map attributeUsage) ++ "]")
    ++ "\n"

/-- The tags on offer, each with the attributes that it takes (`print_tags`). -/
def tagsReport (palette : Palette) : String :=
  String.join (Tag.offered.map (tagLine palette))

/-- The draft, its rendered text, the mode of that and, where they are asked for, the findings. -/
def document (draft : Draft) (mode : TextMode) (findings : Option (List Finding)) : Json :=
  .object
    ([("header", draft.header.toJson),
      ("conditions", .array (draft.conditions.map Condition.toJson)),
      ("xml", .text (draft.render mode)), ("escape", .flag (mode = .escaped))]
      ++ match findings with
         | some findings => [("lint", .array (findings.map Finding.toJson))]
         | none => [])

def flagText (b : Bool) : String := if b then "true" else "false"

def storeSource : String := "rulegen_rules::model"

def draftSource : String := "rulegen_rules::rule"

def programSource : String := "rulegen"

def ignoredEvent (id : Handle) (what : String) : Event where
  level := .debug
  source := storeSource
  message := what ++ " ignored for unknown condition"
  fields := [("condition_id", id.text)]

/-- The event of making an edit in a store; the removal of an unknown condition is none. -/
def editEvent? (store : Store) : Edit → Option Event
  | .add id => some {
      level := .debug, source := storeSource, message := "condition added"
      fields := [("condition_id", id.text), ("position", Text.Decimal.natural store.size)] }
  | .update id patch =>
    match (store.update id patch).get? id with
    | some condition => some {
        level := .debug, source := storeSource, message := "condition updated"
        fields := [("condition_id", id.text), ("tag", condition.tag.text),
          ("retagged", flagText patch.tag.isSome)] }
    | none => some (ignoredEvent id "update")
  | .setAttribute id attr value =>
    match (store.setAttribute id attr value).get? id with
    | some condition => some {
        level := .debug, source := storeSource, message := "condition attribute updated"
        fields := [("condition_id", id.text), ("attribute", attr.text),
          ("stored", flagText (condition.attributes.contains attr))] }
    | none => some (ignoredEvent id "attribute update")
  | .remove id =>
    if (store.get? id).isSome then some {
        level := .debug, source := storeSource, message := "condition removed"
        fields := [("condition_id", id.text)] }
    else none

def editEvents (store : Store) : List Edit → List Event
  | [] => []
  | edit :: edits => (editEvent? store edit).toList ++ editEvents (store.apply edit) edits

def findingEvent (finding : Finding) : Event where
  level := .debug
  source := programSource
  message := finding.message
  fields := [("rule", finding.check.name), ("path", finding.path)]

def hiddenErrorsEvent (errors : Nat) : Event where
  level := .warn
  source := programSource
  message := "rule has lint errors; rerun with --lint for details"
  fields := [("errors", Text.Decimal.natural errors)]

def modeName : TextMode → String
  | .verbatim => "None"
  | .escaped => "Xml"

def renderEvents (draft : Draft) (mode : TextMode) : List Event :=
  [{ level := .debug, source := draftSource, message := "generating rule"
     fields := [("rule_id", Text.Decimal.integer draft.header.id),
       ("conditions", Text.Decimal.natural draft.store.size), ("escape", modeName mode)] },
   { level := .debug, source := programSource, message := "rule generated"
     fields := [("bytes", Text.Decimal.natural (draft.render mode).utf8ByteSize)] }]

end DetectionRule.CommandLine
