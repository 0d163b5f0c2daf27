import DetectionRule.Rule.Store
import DetectionRule.Text.Blank
import DetectionRule.Text.Pieces
import DetectionRule.Vocabulary.Reader

/-!
# Conditions as arguments

One line of text gives a whole condition: the tag, then in brackets the attributes, then after an
equals sign the value, as in `regex[type=pcre2, negate=yes]=^Failed`. The list and the value may be
missing. Blanks around the tag, the pairs, the names and the attribute texts mean nothing; the value
is taken as it stands, to the end of the text. `print` writes the shortest argument for the same
condition.
-/

namespace DetectionRule

/-- A condition as it is given: attributes in order, repeats and defaults included
(`ConditionArg`). -/
structure Argument where
  tag : Tag
  attributes : List (Attribute × String) := []
  value : String := ""
deriving DecidableEq

inductive SyntaxFault
  | missingTag
  | unterminatedList
  | noValue (piece : String)
  | unknownAttribute (name : String)
  | trailingText (text : String)
deriving DecidableEq

def SyntaxFault.reason : SyntaxFault → String
  | missingTag => "missing tag"
  | unterminatedList => "unterminated attribute list"
  | noValue piece => "attribute '" ++ piece ++ "' has no value"
  | unknownAttribute name => (NameError.unknownAttribute name).message
  | trailingText text => "unexpected '" ++ text ++ "' after attribute list"

inductive ArgumentError
  | unknownTag (text : String)
  | malformed (input : String) (fault : SyntaxFault)
deriving DecidableEq

def ArgumentError.message : ArgumentError → String
  | unknownTag text => (NameError.unknownTag text).message
  | malformed input fault => "invalid condition '" ++ input ++ "': " ++ fault.reason

namespace Argument

def endsTag (c : Char) : Bool := c = '[' || c = '='

/-- Reads `name=text`, trimming both; the text may hold further equals signs. -/
def readPair (piece : List Char) : Except SyntaxFault (Attribute × String) :=
  match Text.fromFirst (· = '=') piece with
  | [] => .error (.noValue (String.ofList piece))
  | _ :: text =>
    let name := String.ofList (Text.trimChars (Text.before (· = '=') piece))
    match Attribute.ofText? name with
    | none => .error (.unknownAttribute name)
    | some attr => .ok (attr, String.ofList (Text.trimChars text))

def listPieces (list : List Char) : List (List Char) :=
  ((Text.pieces ',' list).map Text.trimChars).filter fun piece => !piece.isEmpty

/-- The pairs of the pieces, up to the first piece that is none (`parse_attributes`). -/
def readPieces : List (List Char) → Except SyntaxFault (List (Attribute × String))
  | [] => .ok []
  | piece :: pieces =>
    match readPair piece with
    | .error fault => .error fault
    | .ok pair => (readPieces pieces).map (pair :: ·)

def readList : List Char → Except SyntaxFault (List (Attribute × String) × List Char)
  | '[' :: cs =>
    match Text.fromFirst (· = ']') cs with
    | [] => .error .unterminatedList
    | _ :: rest => (readPieces (listPieces (Text.before (· = ']') cs))).map (·, rest)
  | cs => .ok ([], cs)

def readValue : List Char → Except SyntaxFault String
  | [] => .ok ""
  | '=' :: cs => .ok (String.ofList cs)
  | cs => .error (.trailingText (String.ofList cs))

def readRest (cs : List Char) : Except SyntaxFault (List (Attribute × String) × String) :=
  match readList cs with
  | .error fault => .error fault
  | .ok (attributes, rest) => (readValue rest).map (attributes, ·)

/-- A tag comes first, and without a good one nothing else is looked at (`from_str`). -/
def parse (s : String) : Except ArgumentError Argument :=
  let tag := Text.trimChars (Text.before endsTag s.toList)
  if tag.isEmpty then .error (.malformed s .missingTag)
  else
    match Tag.ofText? (String.ofList tag) with
    | none => .error (.unknownTag (String.ofList tag))
    | some tag =>
      match readRest (Text.fromFirst endsTag s.toList) with
      | .error fault => .error (.malformed s fault)
      | .ok (attributes, value) => .ok ⟨tag, attributes, value⟩

def printPair (pair : Attribute × String) : String := pair.1.text ++ "=" ++ pair.2

def printList : List (Attribute × String) → String
  | [] => ""
  | pairs => "[" ++ ",".intercalate (pairs.map printPair) ++ "]"

def printValue (value : String) : String := if value = "" then "" else "=" ++ value

def print (argument : Argument) : String :=
  argument.tag.text ++ printList argument.attributes ++ printValue argument.value

def ofCondition (condition : Condition) : Argument :=
  ⟨condition.tag, condition.attributes.entries, condition.value⟩

/-- The edits that add the condition: a blank one, its tag and value, each attribute in turn
(`apply`). -/
def edits (argument : Argument) (id : Handle) : List Edit :=
  .add id :: .update id { tag := some argument.tag, value := some argument.value }
    :: argument.attributes.map fun pair => .setAttribute id pair.1 (some pair.2)

end Argument

def Store.addArgument (store : Store) (id : Handle) (argument : Argument) : Store :=
  store.run (argument.edits id)

end DetectionRule
