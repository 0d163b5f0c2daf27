/-!
# JSON values

The values that the documents of this library are made of: flags, whole numbers, texts, arrays, and
objects whose members are in the order in which they are written. `sorted` puts the members of all
objects in the order of their names.
-/

namespace DetectionRule

inductive Json
  | flag (b : Bool)
  | number (n : Int)
  | text (s : String)
  | array (items : List Json)
  | object (members : List (String × Json))

namespace Json

/-- Puts a member into sorted ones, unless its name is taken. -/
def insertMember (name : String) (value : Json) : List (String × Json) → List (String × Json)
  | [] => [(name, value)]
  | member :: members =>
    if name < member.1 then (name, value) :: member :: members
    else if name = member.1 then member :: members
    else member :: insertMember name value members

mutual

/-- The value with the members of every object in the order of their names; of two members with
one name the later stays (`to_json_value`). -/
def sorted : Json → Json
  | flag b => flag b
  | number n => number n
  | text s => text s
  | array items => array (sortedItems items)
  | object members => object (sortedMembers members)

def sortedItems : List Json → List Json
  | [] => []
  | item :: items => item.sorted :: sortedItems items

def sortedMembers : List (String × Json) → List (String × Json)
  | [] => []
  | (name, value) :: members => insertMember name value.sorted (sortedMembers members)

end

end Json

end DetectionRule
