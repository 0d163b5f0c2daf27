import DetectionRule.Condition.Basic

/-!
# The conditions of a rule under editing

A store is the sequence of conditions in the order in which they were added. Each edit but the
addition names a condition by its handle; an edit that names none in the store changes nothing
(specification, 4.1).
-/

namespace DetectionRule

/-- The conditions in the order of the rule (`ConditionModel`). -/
structure Store where
  conditions : List Condition := []
deriving DecidableEq

/-- Changes the first element with the property, if there is one (`find_mut`). -/
def changeFirst {α : Type} (p : α → Bool) (f : α → α) : List α → List α
  | [] => []
  | a :: as => if p a then f a :: as else a :: changeFirst p f as

namespace Store

def empty : Store := ⟨[]⟩

def get? (store : Store) (id : Handle) : Option Condition :=
  store.conditions.find? fun condition => condition.id = id

def position? (store : Store) (id : Handle) : Option Nat :=
  store.conditions.findIdx? fun condition => condition.id = id

def size (store : Store) : Nat := store.conditions.length

/-- Adds a blank condition behind the others, under a handle given to none of them. -/
def add (store : Store) (id : Handle) : Store := ⟨store.conditions ++ [Condition.blank id]⟩

def update (store : Store) (id : Handle) (patch : Patch) : Store :=
  ⟨changeFirst (fun condition => condition.id = id) (·.amend patch) store.conditions⟩

/-- Sets or takes away one attribute of a condition (`update_attribute`). -/
def setAttribute (store : Store) (id : Handle) (attr : Attribute) (value : Option String) :
    Store :=
  ⟨changeFirst (fun condition => condition.id = id) (·.setAttribute attr value) store.conditions⟩

def remove (store : Store) (id : Handle) : Store :=
  ⟨store.conditions.filter fun condition => !decide (condition.id = id)⟩

end Store

inductive Edit
  | add (id : Handle)
  | update (id : Handle) (patch : Patch)
  | setAttribute (id : Handle) (attr : Attribute) (value : Option String)
  | remove (id : Handle)
deriving DecidableEq

namespace Store

def apply (store : Store) : Edit → Store
  | .add id => store.add id
  | .update id patch => store.update id patch
  | .setAttribute id attr value => store.setAttribute id attr value
  | .remove id => store.remove id

def run (store : Store) (edits : List Edit) : Store := edits.foldl apply store

@[simp] theorem run_nil (store : Store) : store.run [] = store := rfl

@[simp] theorem run_cons (store : Store) (edit : Edit) (edits : List Edit) :
    store.run (edit :: edits) = (store.apply edit).run edits := rfl

theorem run_append (store : Store) (edits more : List Edit) :
    store.run (edits ++ more) = (store.run edits).run more := by
  simp [run, List.foldl_append]

end Store

end DetectionRule
