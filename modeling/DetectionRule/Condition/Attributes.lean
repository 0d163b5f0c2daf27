import DetectionRule.Vocabulary.Basic

/-!
# The attributes of a condition

Attributes are stored in the order in which they came in. An attribute that is set to nothing, to
the empty text or to `no` is not stored: it is as if it had never been given. Setting a stored
attribute to another value leaves it in its place.
-/

namespace DetectionRule

/-- No value, or one that stands for none (`is_default_value`). -/
def isUnset : Option String → Bool
  | none => true
  | some value => value == "" || value == "no"

/-- The attributes with their values, in the order in which they came in (`AttributeBag`). -/
structure Attributes where
  entries : List (Attribute × String) := []
deriving DecidableEq

namespace Attributes

def empty : Attributes := ⟨[]⟩

def get? (stored : Attributes) (attr : Attribute) : Option String :=
  stored.entries.lookup attr

def contains (stored : Attributes) (attr : Attribute) : Bool := (stored.get? attr).isSome

def keys (stored : Attributes) : List Attribute := stored.entries.map Prod.fst

def size (stored : Attributes) : Nat := stored.entries.length

def isEmpty (stored : Attributes) : Bool := stored.entries.isEmpty

/-- The entry of the attribute with another value, or a new entry behind the others. -/
def putEntry (attr : Attribute) (value : String) :
    List (Attribute × String) → List (Attribute × String)
  | [] => [(attr, value)]
  | entry :: entries =>
    if entry.1 = attr then (attr, value) :: entries
    else entry :: putEntry attr value entries

def put (stored : Attributes) (attr : Attribute) (value : String) : Attributes :=
  ⟨putEntry attr value stored.entries⟩

def erase (stored : Attributes) (attr : Attribute) : Attributes :=
  ⟨stored.entries.eraseP fun entry => entry.1 = attr⟩

def set (stored : Attributes) (attr : Attribute) : Option String → Attributes
  | none => stored.erase attr
  | some value => if isUnset (some value) then stored.erase attr else stored.put attr value

def setAll (stored : Attributes) (pairs : List (Attribute × String)) : Attributes :=
  pairs.foldl (fun stored pair => stored.set pair.1 (some pair.2)) stored

def merge (stored other : Attributes) : Attributes := stored.setAll other.entries

def clear (_ : Attributes) : Attributes := empty

def ofList (pairs : List (Attribute × String)) : Attributes := empty.setAll pairs

@[simp] theorem setAll_nil (stored : Attributes) : stored.setAll [] = stored := rfl

@[simp] theorem setAll_cons (stored : Attributes) (pair : Attribute × String)
    (pairs : List (Attribute × String)) :
    stored.setAll (pair :: pairs) = (stored.set pair.1 (some pair.2)).setAll pairs := rfl

end Attributes

end DetectionRule
