import DetectionRule.Condition.Attributes

/-!
# Reading tags and attributes by name

A text that is no name is an error that carries the text. The command line and the editor tell that
the tag or the attribute is unknown; a reader of documents lists the names it would have taken.
-/

namespace DetectionRule

/-- A text that should have named a tag or an attribute and does not (`UnknownTag`,
`UnknownAttribute`). -/
inductive NameError
  | unknownTag (text : String)
  | unknownAttribute (text : String)
deriving DecidableEq

def NameError.message : NameError → String
  | unknownTag text => "unknown condition tag: " ++ text
  | unknownAttribute text => "unknown attribute: " ++ text

def Tag.read (s : String) : Except NameError Tag :=
  match Tag.ofText? s with
  | some tag => .ok tag
  | none => .error (.unknownTag s)

def Attribute.read (s : String) : Except NameError Attribute :=
  match Attribute.ofText? s with
  | some attr => .ok attr
  | none => .error (.unknownAttribute s)

def readPairs : List (String × String) → Except NameError (List (Attribute × String))
  | [] => .ok []
  | (name, value) :: pairs =>
    match Attribute.read name with
    | .error e => .error e
    | .ok attr => (readPairs pairs).map ((attr, value) :: ·)

def Attributes.read (pairs : List (String × String)) : Except NameError Attributes :=
  (readPairs pairs).map Attributes.ofList

structure UnknownVariant where
  text : String
  expected : List String
deriving DecidableEq

def UnknownVariant.message (e : UnknownVariant) : String :=
  "unknown variant `" ++ e.text ++ "`, expected one of "
    ++ ", ".intercalate (e.expected.map fun name => "`" ++ name ++ "`")

def Tag.decode (s : String) : Except UnknownVariant Tag :=
  match Tag.ofText? s with
  | some tag => .ok tag
  | none => .error ⟨s, Tag.all.map Tag.text⟩

def Attribute.decode (s : String) : Except UnknownVariant Attribute :=
  match Attribute.ofText? s with
  | some attr => .ok attr
  | none => .error ⟨s, Attribute.all.map Attribute.text⟩

end DetectionRule
