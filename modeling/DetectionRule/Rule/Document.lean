import DetectionRule.Condition.Basic
import DetectionRule.Markup
import DetectionRule.Rule.Header
import DetectionRule.Text.Decimal

/-!
# The rendered rule

A rule renders as one `rule` element. Its start tag carries the header, each condition is an
element on a line of its own, indented by four spaces, and the end tag stands alone on the last
line. A rule without conditions has an empty line in their place (specification, 4.2).
-/

namespace DetectionRule

/-- What of a condition the rendered rule shows. -/
structure Element where
  tag : Tag
  attributes : List (Attribute × String)
  value : String
deriving DecidableEq

namespace Element

/-- A content-only tag shows no attributes; the others show those whose value is not empty. -/
def ofCondition (condition : Condition) : Element where
  tag := condition.tag
  attributes :=
    if condition.tag.isContentOnly then []
    else condition.attributes.entries.filter fun entry => entry.2 ≠ ""
  value := condition.value

def renderAttribute (mode : TextMode) (entry : Attribute × String) : String :=
  " " ++ entry.1.text ++ "=\"" ++ mode.text entry.2 ++ "\""

/-- The line of one condition (`render_condition`). -/
def render (mode : TextMode) (element : Element) : String :=
  "    <" ++ element.tag.text ++ String.join (element.attributes.map (renderAttribute mode)) ++ ">"
    ++ mode.text element.value ++ "</" ++ element.tag.text ++ ">"

end Element

namespace Header

def renderCount (name : String) : Option Nat → String
  | some count => " " ++ name ++ "=\"" ++ Text.Decimal.natural count ++ "\""
  | none => ""

/-- The start tag of the rule (`render_open_tag`). -/
def render (header : Header) : String :=
  "<rule id=\"" ++ Text.Decimal.integer header.id ++ "\" level=\""
    ++ Text.Decimal.integer header.level ++ "\"" ++ renderCount "frequency" header.frequency
    ++ renderCount "timeframe" header.timeframe ++ ">"

end Header

/-- The start tag, the lines and the end tag (`serialize_with`). -/
def render (mode : TextMode) (header : Header) (conditions : List Condition) : String :=
  header.render ++ "\n"
    ++ "\n".intercalate
      (conditions.map fun condition => (Element.ofCondition condition).render mode)
    ++ "\n</rule>"

end DetectionRule
