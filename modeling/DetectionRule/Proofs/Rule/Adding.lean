import DetectionRule.Condition.Argument
import DetectionRule.Proofs.Condition.Patches
import DetectionRule.Proofs.Rule.History

/-!
# Adding an argument

An argument is added by many edits: a blank condition, then its tag and value, then one attribute
after the other. All but the first are changes of the last condition, so that the conditions before
it stay as they are (`run_changes_last`) and what is left is to see what the changes make of a blank
condition. One patch with the tag, the value and the attributes makes the same of it. Main
statement: `addArgument_eq_update`.
-/

namespace DetectionRule

theorem changeFirst_append_singleton {α : Type} {p : α → Bool} {f : α → α} {as : List α} {a : α}
    (h : ∀ b ∈ as, p b = false) (ha : p a = true) :
    changeFirst p f (as ++ [a]) = as ++ [f a] := by
  induction as with
  | nil => rw [List.nil_append, changeFirst, if_pos ha, List.nil_append]
  | cons b as ih =>
    have hb : ¬p b = true := by simp [h b List.mem_cons_self]
    rw [List.cons_append, changeFirst, if_neg hb, ih fun c hc => h c (List.mem_cons_of_mem _ hc),
      List.cons_append]

/-- The edit that makes the change in the condition under the handle. -/
def Change.edit (id : Handle) : Change → Edit
  | amend patch => .update id patch
  | setAttribute attr value => .setAttribute id attr value

namespace Store

variable {store : Store} {id : Handle} {conditions : List Condition} {condition : Condition}

theorem apply_change_last (hid : condition.id = id) (h : ∀ other ∈ conditions, other.id ≠ id)
    (made : Change) :
    Store.apply ⟨conditions ++ [condition]⟩ (made.edit id)
      = ⟨conditions ++ [condition.change made]⟩ := by
  have hothers : ∀ other ∈ conditions, decide (other.id = id) = false :=
    fun other ho => decide_eq_false (h other ho)
  cases made with
  | amend patch =>
    exact congrArg mk (changeFirst_append_singleton hothers (decide_eq_true hid))
  | setAttribute attr value =>
    exact congrArg mk (changeFirst_append_singleton hothers (decide_eq_true hid))

theorem run_changes_last (hid : condition.id = id) (h : ∀ other ∈ conditions, other.id ≠ id)
    (changes : List Change) :
    Store.run ⟨conditions ++ [condition]⟩ (changes.map (Change.edit id))
      = ⟨conditions ++ [changes.foldl Condition.change condition]⟩ := by
  -- By induction on the changes; none of them changes the handle.
  induction changes generalizing condition with
  | nil => rfl
  | cons made changes ih =>
    have hnext : (condition.change made).id = id := (condition.change_id made).trans hid
    rw [List.map_cons, run_cons, apply_change_last hid h, ih hnext, List.foldl_cons]

theorem run_add_changes (fresh : id ∉ store.handles) (changes : List Change) :
    store.run (.add id :: changes.map (Change.edit id))
      = ⟨store.conditions ++ [changes.foldl Condition.change (.blank id)]⟩ := by
  have hothers : ∀ other ∈ store.conditions, other.id ≠ id :=
    fun other ho e => fresh (e ▸ List.mem_map_of_mem ho)
  rw [run_cons]
  exact run_changes_last rfl hothers changes

end Store

/-! ### The changes of an argument -/

namespace Argument

variable {id : Handle}

/-- What is made of the blank condition, change by change. -/
def changes (argument : Argument) : List Change :=
  .amend { tag := some argument.tag, value := some argument.value }
    :: argument.attributes.map fun pair => .setAttribute pair.1 (some pair.2)

/-- The patch that gives everything at once. -/
def patch (argument : Argument) : Patch where
  tag := some argument.tag
  value := some argument.value
  attributes := some (Attributes.ofList argument.attributes)

/-- The condition that the argument speaks of. Of attributes given twice the last value counts, and
those given a value with which they count as not given are not there. -/
def condition (argument : Argument) (id : Handle) : Condition :=
  ⟨id, argument.tag, argument.value, Attributes.ofList argument.attributes⟩

theorem edits_eq (argument : Argument) (id : Handle) :
    argument.edits id = .add id :: argument.changes.map (Change.edit id) := by
  rw [edits, changes, List.map_cons, List.map_map]
  rfl

theorem foldl_setAttribute (condition : Condition) (pairs : List (Attribute × String)) :
    (pairs.map fun pair => Change.setAttribute pair.1 (some pair.2)).foldl Condition.change
        condition
      = { condition with attributes := condition.attributes.setAll pairs } := by
  induction pairs generalizing condition with
  | nil => rfl
  | cons pair pairs ih =>
    rw [List.map_cons, List.foldl_cons, ih, Attributes.setAll_cons]
    rfl

theorem foldl_changes (argument : Argument) (id : Handle) :
    argument.changes.foldl Condition.change (.blank id) = argument.condition id := by
  rw [changes, List.foldl_cons, foldl_setAttribute]
  rfl

/-- Setting pairs on empty attributes gives well-formed ones, which a patch brings in as they
are. -/
theorem amend_patch (argument : Argument) (id : Handle) :
    (Condition.blank id).amend argument.patch = argument.condition id := by
  have hwell : (Attributes.ofList argument.attributes).WellFormed :=
    Attributes.WellFormed.empty.setAll argument.attributes
  have hattributes : ((Condition.blank id).amend argument.patch).attributes
      = Attributes.ofList argument.attributes :=
    Condition.attributes_amend_of_given rfl hwell
  exact (Condition.mk.injEq ..).mpr ⟨rfl, rfl, rfl, hattributes⟩

end Argument

namespace Store

variable {store : Store} {id : Handle}

theorem addArgument_eq (fresh : id ∉ store.handles) (argument : Argument) :
    store.addArgument id argument =
      ⟨store.conditions
        ++ [⟨id, argument.tag, argument.value, Attributes.ofList argument.attributes⟩]⟩ := by
  rw [addArgument, argument.edits_eq, run_add_changes fresh, argument.foldl_changes]
  rfl

theorem update_add_patch (fresh : id ∉ store.handles) (argument : Argument) :
    (store.add id).update id argument.patch = ⟨store.conditions ++ [argument.condition id]⟩ := by
  rw [← argument.amend_patch]
  exact run_add_changes fresh [.amend argument.patch]

/-- In every store, whichever edits made it. -/
theorem addArgument_eq_update (fresh : id ∉ store.handles) (argument : Argument) :
    (store.addArgument id argument).conditions =
        store.conditions ++
          [⟨id, argument.tag, argument.value, Attributes.empty.setAll argument.attributes⟩] ∧
      store.addArgument id argument =
        (store.add id).update id
          { tag := some argument.tag
            value := some argument.value
            attributes := some (Attributes.empty.setAll argument.attributes) } := by
  have hadded := addArgument_eq fresh argument
  refine ⟨congrArg conditions hadded, ?_⟩
  rw [hadded]
  exact (update_add_patch fresh argument).symm

/-- A type given twice, and two attributes that in the end count as not given. -/
def repeatingArgument : Argument where
  tag := .regex
  attributes :=
    [(.type, "glob"), (.name, "user"), (.negate, "no"), (.type, "pcre2"), (.name, "")]
  value := "a=[b]"

theorem addArgument_eq_update_repeatingArgument :
    (⟨3⟩ : Handle) ∉ (empty.run mixedRun).handles ∧
      ((empty.run mixedRun).addArgument ⟨3⟩ repeatingArgument).conditions =
        (empty.run mixedRun).conditions ++
          [⟨⟨3⟩, .regex, "a=[b]", ⟨[(.type, "pcre2")]⟩⟩] ∧
      (empty.run mixedRun).addArgument ⟨3⟩ repeatingArgument =
        ((empty.run mixedRun).add ⟨3⟩).update ⟨3⟩
          { tag := some .regex, value := some "a=[b]",
            attributes := some ⟨[(.type, "pcre2")]⟩ } := by
  have hfresh : (⟨3⟩ : Handle) ∉ (empty.run mixedRun).handles := by decide
  have hset : Attributes.empty.setAll repeatingArgument.attributes = ⟨[(.type, "pcre2")]⟩ := by
    decide
  obtain ⟨hconditions, hpatch⟩ := addArgument_eq_update hfresh repeatingArgument
  rw [hset] at hconditions hpatch
  exact ⟨hfresh, hconditions, hpatch⟩

end Store

end DetectionRule
