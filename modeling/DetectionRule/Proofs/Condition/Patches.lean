import DetectionRule.Proofs.Condition.Merging

/-!
# Patches in turn

A patch with a tag takes away the attributes stored before it, and one with attributes replaces
them. So what two patches do in turn is done by one, but not by the one that has the later of each
field: of a patch with attributes and a later one with only a tag no attributes are left. That one
patch is `Patch.andThen`. Under it patches are a monoid that acts on conditions, and a patch done
twice is done once. Main statement: `amend_composes`.
-/

namespace DetectionRule

namespace Patch

variable {first second : Patch}

/-- The one patch that does what the patches do in turn. -/
def composed (patches : List Patch) : Patch := patches.foldl andThen {}

theorem attributes_andThen : (first.andThen second).attributes =
    second.attributes.or (if second.tag.isSome then none else first.attributes) := by
  rw [andThen]
  cases second.attributes <;> rfl

theorem andThen_assoc (first second third : Patch) :
    (first.andThen second).andThen third = first.andThen (second.andThen third) := by
  have htag : ((first.andThen second).andThen third).tag
      = (first.andThen (second.andThen third)).tag := Option.or_assoc.symm
  have hvalue : ((first.andThen second).andThen third).value
      = (first.andThen (second.andThen third)).value := Option.or_assoc.symm
  have hattributes : ((first.andThen second).andThen third).attributes
      = (first.andThen (second.andThen third)).attributes := by
    rw [attributes_andThen, attributes_andThen, attributes_andThen, attributes_andThen,
      Option.or_assoc]
    congr 1
    -- a tag of the third patch takes away what both before it bring
    cases ht : third.tag with
    | some tag => simp [andThen, ht]
    | none => simp [andThen, ht]
  exact (mk.injEq ..).mpr ⟨htag, hvalue, hattributes⟩

theorem empty_andThen (patch : Patch) : andThen {} patch = patch := by
  have hattributes : (andThen {} patch).attributes = patch.attributes := by
    rw [attributes_andThen, ite_self, Option.or_none]
  exact (mk.injEq ..).mpr ⟨Option.or_none, Option.or_none, hattributes⟩

theorem andThen_empty (patch : Patch) : patch.andThen {} = patch := rfl

theorem andThen_self (patch : Patch) : patch.andThen patch = patch := by
  have hattributes : (patch.andThen patch).attributes = patch.attributes := by
    rw [attributes_andThen]
    split
    · exact Option.or_none
    · exact Option.or_self
  exact (mk.injEq ..).mpr ⟨Option.or_self, Option.or_self, hattributes⟩

end Patch

namespace Condition

variable {condition : Condition} {patch : Patch} {given : Attributes}

/-! ### Acting on conditions -/

theorem attributes_amend : (condition.amend patch).attributes =
    (patch.attributes.map Attributes.empty.merge).getD
      (if patch.tag.isSome then .empty else condition.attributes) := by
  rw [amend]
  cases patch.attributes <;> rfl

theorem amend_andThen (condition : Condition) (first second : Patch) :
    (condition.amend first).amend second = condition.amend (first.andThen second) := by
  have htag : ((condition.amend first).amend second).tag
      = (condition.amend (first.andThen second)).tag := by
    simp only [amend, Patch.andThen]
    cases second.tag <;> rfl
  have hvalue : ((condition.amend first).amend second).value
      = (condition.amend (first.andThen second)).value := by
    simp only [amend, Patch.andThen]
    cases second.value <;> rfl
  have hattributes : ((condition.amend first).amend second).attributes
      = (condition.amend (first.andThen second)).attributes := by
    rw [attributes_amend, attributes_amend, attributes_amend, Patch.attributes_andThen]
    cases second.attributes with
    | some given => rfl
    | none =>
      cases ht : second.tag with
      | some tag => simp [Patch.andThen, ht]
      | none => simp [Patch.andThen, ht]
  exact (mk.injEq ..).mpr ⟨rfl, htag, hvalue, hattributes⟩

theorem foldl_amend (patch : Patch) (patches : List Patch) :
    patches.foldl amend (condition.amend patch)
      = condition.amend (patches.foldl Patch.andThen patch) := by
  -- By induction on the patches; the first two become one.
  induction patches generalizing patch with
  | nil => rfl
  | cons next patches ih => rw [List.foldl_cons, List.foldl_cons, amend_andThen, ih]

theorem attributes_amend_of_given (h : patch.attributes = some given) (hw : given.WellFormed) :
    (condition.amend patch).attributes = given := by
  rw [attributes_amend, h]
  exact hw.ofList_entries

theorem amend_composes :
    (∀ (condition : Condition) (patches : List Patch),
      patches.foldl amend condition = condition.amend (Patch.composed patches)) ∧
      (∀ first second third : Patch,
        (first.andThen second).andThen third = first.andThen (second.andThen third)) ∧
      (∀ patch : Patch, Patch.andThen {} patch = patch ∧ patch.andThen {} = patch) ∧
      (∀ (condition : Condition) (patch : Patch),
        (condition.amend patch).amend patch = condition.amend patch) ∧
      ∀ (condition : Condition) (patch : Patch) (given : Attributes),
        patch.attributes = some given → given.Reachable →
        (condition.amend patch).attributes = given := by
  refine ⟨?_, Patch.andThen_assoc, ?_, ?_, ?_⟩
  · intro condition patches
    exact foldl_amend {} patches
  · exact fun patch => ⟨Patch.empty_andThen patch, Patch.andThen_empty patch⟩
  · intro condition patch
    rw [amend_andThen, Patch.andThen_self]
  · intro condition patch given h hreachable
    exact attributes_amend_of_given h (Attributes.reachable_iff_wellFormed.1 hreachable)

/-- Attributes with a tag, a value, and at last a tag that takes the attributes away. -/
def retaggingPatches : List Patch :=
  [{ tag := some .regex, attributes := some ⟨[(.type, "pcre2"), (.name, "x")]⟩ },
   { value := some "^Failed" }, { tag := some .field }]

theorem amend_composes_retaggingPatches :
    Patch.composed retaggingPatches = { tag := some .field, value := some "^Failed" } ∧
      retaggingPatches.foldl amend (blank ⟨0⟩) = ⟨⟨0⟩, .field, "^Failed", .empty⟩ ∧
      Attributes.Reachable ⟨[(.type, "pcre2"), (.name, "x")]⟩ ∧
      ((blank ⟨0⟩).amend retaggingPatches[0]).attributes = ⟨[(.type, "pcre2"), (.name, "x")]⟩ := by
  have hcomposed : Patch.composed retaggingPatches
      = { tag := some .field, value := some "^Failed" } := by
    decide
  have hreachable : Attributes.Reachable ⟨[(.type, "pcre2"), (.name, "x")]⟩ :=
    ⟨[.set .type (some "pcre2"), .set .name (some "x")], by decide⟩
  obtain ⟨hturns, -, -, -, hgiven⟩ := amend_composes
  refine ⟨hcomposed, ?_, hreachable, hgiven (blank ⟨0⟩) retaggingPatches[0] _ rfl hreachable⟩
  rw [hturns, hcomposed]
  rfl

end Condition

end DetectionRule
