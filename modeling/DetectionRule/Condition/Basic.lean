import DetectionRule.Condition.Attributes
import DetectionRule.Text.Decimal

/-!
# Conditions and patches

A condition is one element of the rule: a tag, a content value and attributes. It is known by a
handle, which stays the same however the condition changes. A patch gives some of the three anew;
with a tag, even the one the condition has, it takes away the attributes stored before
(specification, 4.1).
-/

namespace DetectionRule

structure Handle where
  index : Nat
deriving DecidableEq

def Handle.text (id : Handle) : String := "#" ++ Text.Decimal.natural id.index

structure Condition where
  id : Handle
  tag : Tag := .field
  value : String := ""
  attributes : Attributes := .empty
deriving DecidableEq

/-- New values for a condition (`ConditionPatch`). -/
structure Patch where
  tag : Option Tag := none
  value : Option String := none
  attributes : Option Attributes := none
deriving DecidableEq

namespace Patch

def isEmpty (patch : Patch) : Bool :=
  patch.tag.isNone && patch.value.isNone && patch.attributes.isNone

/-- The one patch that does what `first` and then `second` do. -/
def andThen (first second : Patch) : Patch where
  tag := second.tag.or first.tag
  value := second.value.or first.value
  attributes :=
    match second.attributes with
    | some given => some given
    | none => if second.tag.isSome then none else first.attributes

end Patch

namespace Condition

def blank (id : Handle) : Condition := { id }

/-- The stored attributes that the tag does not take (`stray_attributes`). -/
def misplaced (condition : Condition) : List Attribute :=
  condition.attributes.keys.filter fun attr => !condition.tag.takes attr

/-- Attributes of the patch replace the stored ones; without any, a tag alone takes those away. -/
def amend (condition : Condition) (patch : Patch) : Condition where
  id := condition.id
  tag := patch.tag.getD condition.tag
  value := patch.value.getD condition.value
  attributes :=
    match patch.attributes with
    | some given => Attributes.empty.merge given
    | none => if patch.tag.isSome then .empty else condition.attributes

def setAttribute (condition : Condition) (attr : Attribute) (value : Option String) :
    Condition :=
  { condition with attributes := condition.attributes.set attr value }

@[simp] theorem amend_id (condition : Condition) (patch : Patch) :
    (condition.amend patch).id = condition.id := rfl

@[simp] theorem setAttribute_id (condition : Condition) (attr : Attribute)
    (value : Option String) : (condition.setAttribute attr value).id = condition.id := rfl

end Condition

end DetectionRule
