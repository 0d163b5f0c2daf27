/-!
# Tags and attributes

A condition of a rule is an element whose name is one of seventeen tags. An element has either
content only or attributes as well. There are three attributes; two of them take their values from a
fixed list, and each tag takes the attributes that the engine reads on it (specification, 11.3).
-/

namespace DetectionRule

inductive Attribute
  | name
  | negate
  | type
deriving DecidableEq

namespace Attribute

def all : List Attribute := [name, negate, type]

def text : Attribute → String
  | name => "name"
  | negate => "negate"
  | type => "type"

def ofText? (s : String) : Option Attribute := all.find? fun attr => attr.text == s

/-- The values that may be chosen from; any text where there is no list (`allowed_values`). -/
def values? : Attribute → Option (List String)
  | name => none
  | negate => some ["yes", "no"]
  | type => some ["osmatch", "sregex", "pcre2"]

/-- The value that an editor shows where none is stored (`ui_default`). -/
def shownDefault? : Attribute → Option String
  | name => none
  | negate => some "no"
  | type => some "osmatch"

def admits (attr : Attribute) (value : String) : Bool :=
  match attr.values? with
  | none => true
  | some values => values.contains value

theorem mem_all (attr : Attribute) : attr ∈ all := by cases attr <;> decide

theorem ofText?_text (attr : Attribute) : ofText? attr.text = some attr := by
  cases attr <;> decide

theorem ofText?_eq_some_iff {s : String} {attr : Attribute} :
    ofText? s = some attr ↔ s = attr.text := by
  refine ⟨fun h => ?_, fun h => h ▸ ofText?_text attr⟩
  have h' := List.find?_some (show all.find? (fun a => a.text == s) = some attr from h)
  exact (beq_iff_eq.1 h').symm

theorem ofText?_eq_none_iff {s : String} :
    ofText? s = none ↔ ∀ attr : Attribute, attr.text ≠ s := by
  rw [Option.eq_none_iff_forall_ne_some]
  exact forall_congr' fun attr => not_congr (ofText?_eq_some_iff.trans eq_comm)

theorem text_inj {a b : Attribute} : a.text = b.text ↔ a = b := by
  refine ⟨fun h => Option.some_inj.1 ?_, fun h => h ▸ rfl⟩
  rw [← ofText?_text a, h, ofText?_text]

end Attribute

/-! ### Tags -/

inductive ElementForm
  | contentOnly
  | attributeBearing
deriving DecidableEq

def ElementForm.name : ElementForm → String
  | contentOnly => "content_only"
  | attributeBearing => "attribute_bearing"

inductive Tag
  | description
  | group
  | ifSid
  | ifGroup
  | ifMatchedSid
  | ifMatchedGroup
  | pattern
  | regex
  | decodedAs
  | category
  | field
  | sourceIp
  | destinationIp
  | user
  | programName
  | hostname
  | list
deriving DecidableEq

namespace Tag

/-- A condition is a `field` until it is given another tag. -/
instance : Inhabited Tag := ⟨field⟩

def all : List Tag :=
  [description, group, ifSid, ifGroup, ifMatchedSid, ifMatchedGroup, pattern, regex, decodedAs,
   category, field, sourceIp, destinationIp, user, programName, hostname, list]

def text : Tag → String
  | description => "description"
  | group => "group"
  | ifSid => "if_sid"
  | ifGroup => "if_group"
  | ifMatchedSid => "if_matched_sid"
  | ifMatchedGroup => "if_matched_group"
  | pattern => "match"
  | regex => "regex"
  | decodedAs => "decoded_as"
  | category => "category"
  | field => "field"
  | sourceIp => "srcip"
  | destinationIp => "dstip"
  | user => "user"
  | programName => "program_name"
  | hostname => "hostname"
  | list => "list"

def ofText? (s : String) : Option Tag := all.find? fun tag => tag.text == s

/-- Content-only tags are rendered without attributes (`render_class`). -/
def form : Tag → ElementForm
  | description | group | ifSid | ifGroup | decodedAs | category => .contentOnly
  | _ => .attributeBearing

def isContentOnly (tag : Tag) : Bool := tag.form = .contentOnly

/-- The attributes that the engine reads on an element of the tag (`legal_attributes`). -/
def attributes : Tag → List Attribute
  | pattern | regex => [.type, .negate]
  | field => [.name]
  | sourceIp | destinationIp | user | hostname => [.negate]
  | _ => []

def takes (tag : Tag) (attr : Attribute) : Bool := tag.attributes.contains attr

/-- Correlation tags are not offered for selection (`selectable`). -/
def isOffered : Tag → Bool
  | ifMatchedSid | ifMatchedGroup => false
  | _ => true

def offered : List Tag := all.filter isOffered

theorem mem_all (tag : Tag) : tag ∈ all := by cases tag <;> decide

theorem ofText?_text (tag : Tag) : ofText? tag.text = some tag := by cases tag <;> decide

theorem ofText?_eq_some_iff {s : String} {tag : Tag} : ofText? s = some tag ↔ s = tag.text := by
  refine ⟨fun h => ?_, fun h => h ▸ ofText?_text tag⟩
  have h' := List.find?_some (show all.find? (fun t => t.text == s) = some tag from h)
  exact (beq_iff_eq.1 h').symm

theorem ofText?_eq_none_iff {s : String} : ofText? s = none ↔ ∀ tag : Tag, tag.text ≠ s := by
  rw [Option.eq_none_iff_forall_ne_some]
  exact forall_congr' fun tag => not_congr (ofText?_eq_some_iff.trans eq_comm)

theorem text_inj {s t : Tag} : s.text = t.text ↔ s = t := by
  refine ⟨fun h => Option.some_inj.1 ?_, fun h => h ▸ rfl⟩
  rw [← ofText?_text s, h, ofText?_text]

end Tag

end DetectionRule
