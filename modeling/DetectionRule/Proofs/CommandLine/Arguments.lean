import DetectionRule.CommandLine.Run
import DetectionRule.Proofs.Condition.LastGiven
import DetectionRule.Proofs.Rule.Rebuilding
import DetectionRule.Proofs.Rule.Validity

/-!
# Rules from the arguments of a command line

Each argument makes one condition, whose handle is its place (`conditions_ofArguments`). Whether the
rule is then valid is decided by the header and, for each attribute that a tag takes, by the last
value given for it. Main statement: `valid_ofArguments_iff`.
-/

namespace DetectionRule

open CommandLine

/-- The condition that an argument makes under a handle. -/
def Condition.ofArgument (id : Handle) (argument : Argument) : Condition :=
  ⟨id, argument.tag, argument.value, Attributes.ofList argument.attributes⟩

namespace Store

def ofArguments (arguments : List Argument) : Store :=
  empty.run (GenerateOptions.editsFrom 0 arguments)

variable {store : Store} {k : Nat} {arguments : List Argument}

theorem run_editsFrom (fresh : ∀ j, k ≤ j → ⟨j⟩ ∉ store.handles) :
    (store.run (GenerateOptions.editsFrom k arguments)).conditions
      = store.conditions
        ++ (arguments.zipIdx k).map fun entry => Condition.ofArgument ⟨entry.2⟩ entry.1 := by
  -- By induction on the arguments that are still to come; the handles of those that are there are
  -- earlier places.
  induction arguments generalizing store k with
  | nil => simp [GenerateOptions.editsFrom]
  | cons argument arguments ih =>
    have hfirst : store.run (argument.edits ⟨k⟩)
        = ⟨store.conditions ++ [Condition.ofArgument ⟨k⟩ argument]⟩ :=
      addArgument_eq (fresh k (Nat.le_refl k)) argument
    have hfresh : ∀ j, k + 1 ≤ j →
        ⟨j⟩ ∉ handles ⟨store.conditions ++ [Condition.ofArgument ⟨k⟩ argument]⟩ := by
      intro j hj hm
      rw [handles, List.map_append, List.mem_append, List.map_singleton, List.mem_singleton] at hm
      rcases hm with hm | hm
      · exact fresh j (by omega) hm
      · have hplace : j = k := congrArg Handle.index hm
        omega
    rw [GenerateOptions.editsFrom, run_append, hfirst, ih hfresh, List.zipIdx_cons, List.map_cons,
      List.append_assoc, List.singleton_append]

theorem conditions_ofArguments (arguments : List Argument) :
    (ofArguments arguments).conditions
      = arguments.mapIdx fun i argument => Condition.ofArgument ⟨i⟩ argument := by
  rw [ofArguments, run_editsFrom fun _ _ => List.not_mem_nil, List.mapIdx_eq_zipIdx_map]
  rfl

theorem forall_ofArguments_iff {p : Condition → Prop} :
    (∀ condition ∈ (ofArguments arguments).conditions, p condition) ↔
      ∀ i (h : i < arguments.length), p (Condition.ofArgument ⟨i⟩ arguments[i]) := by
  rw [conditions_ofArguments]
  constructor
  · intro h i hi
    exact h _ (List.mem_mapIdx.2 ⟨i, hi, rfl⟩)
  · intro h condition hc
    obtain ⟨i, hi, rfl⟩ := List.mem_mapIdx.1 hc
    exact h i hi

end Store

namespace Argument

/-- For each attribute that the tag takes, the last value given for it, if any is, is one with which
the attribute counts as not given or one that it admits. -/
def Passes (argument : Argument) : Prop :=
  ∀ attr, argument.tag.takes attr = true → ∀ value ∈ lastGiven? attr argument.attributes,
    value = "" ∨ value = "no" ∨ attr.admits value = true

/-- The arguments have one tag, and for each attribute that it takes the same last value. -/
def Alike (argument other : Argument) : Prop :=
  argument.tag = other.tag ∧ ∀ attr, argument.tag.takes attr = true →
    lastGiven? attr argument.attributes = lastGiven? attr other.attributes

variable {argument other : Argument}

theorem Passes.congr (h : argument.Alike other) : argument.Passes ↔ other.Passes := by
  obtain ⟨htag, hlast⟩ := h
  unfold Passes
  rw [← htag]
  refine forall_congr' fun attr => forall_congr' fun htakes => ?_
  rw [hlast attr htakes]

end Argument

theorem Condition.invalidAttributes_eq_nil_iff {condition : Condition}
    (h : condition.attributes.WellFormed) :
    condition.invalidAttributes = [] ↔
      ∀ attr, condition.tag.takes attr = true → ∀ value ∈ condition.attributes.get? attr,
        attr.admits value = true := by
  rw [List.eq_nil_iff_forall_not_mem]
  constructor
  · intro hnone attr htakes value hvalue
    by_contra hadmits
    have hmem : (attr, value) ∈ condition.attributes.entries :=
      (Attributes.lookup_eq_some_iff_mem h.distinct).1 hvalue
    exact hnone (attr, value) (mem_invalidAttributes.2 ⟨hmem, htakes, by simpa using hadmits⟩)
  · rintro hadmits ⟨attr, value⟩ hentry
    obtain ⟨hmem, htakes, hrefused⟩ := mem_invalidAttributes.1 hentry
    have hvalue : value ∈ condition.attributes.get? attr :=
      (Attributes.lookup_eq_some_iff_mem h.distinct).2 hmem
    rw [hadmits attr htakes value hvalue] at hrefused
    cases hrefused

theorem Condition.invalidAttributes_ofArgument (id : Handle) (argument : Argument) :
    (ofArgument id argument).invalidAttributes = [] ↔ argument.Passes := by
  have hstored : (Attributes.ofList argument.attributes).WellFormed := .setAll .empty _
  rw [invalidAttributes_eq_nil_iff hstored]
  refine forall_congr' fun attr => forall_congr' fun _ => ?_
  rw [ofArgument, Attributes.get?_ofList]
  cases lastGiven? attr argument.attributes with
  | none => simp
  | some value =>
    simp only [Option.bind_some, kept?, isUnset, Option.mem_def, Option.some_inj, forall_eq',
      Bool.or_eq_true, beq_iff_eq]
    by_cases hv : value = "" ∨ value = "no"
    · rw [if_pos hv]
      constructor
      · intro _
        exact hv.imp_right .inl
      · intro _ kept hkept
        cases hkept
    · rw [if_neg hv]
      obtain ⟨hempty, hno⟩ := not_or.1 hv
      simp [hempty, hno]

/-! ### The verdict -/

theorem validate_ofArguments {header : Header} {arguments : List Argument} :
    validate header (Store.ofArguments arguments).conditions = .ok () ↔
      header.InRange ∧ ∀ argument ∈ arguments, argument.Passes := by
  rw [validate_eq_ok_iff, Store.forall_ofArguments_iff]
  refine and_congr_right fun _ => ⟨?_, ?_⟩
  · intro h argument ha
    obtain ⟨i, hi, rfl⟩ := List.mem_iff_getElem.1 ha
    exact (Condition.invalidAttributes_ofArgument ⟨i⟩ _).1 (h i hi)
  · intro h i hi
    exact (Condition.invalidAttributes_ofArgument ⟨i⟩ _).2 (h _ (List.getElem_mem hi))

theorem passes_congr {arguments others : List Argument}
    (h : List.Forall₂ Argument.Alike arguments others) :
    (∀ argument ∈ arguments, argument.Passes) ↔ ∀ other ∈ others, other.Passes := by
  induction h with
  | nil => exact Iff.rfl
  | cons hsame _ ih =>
    rw [List.forall_mem_cons, List.forall_mem_cons, Argument.Passes.congr hsame, ih]

/-- What else is given, in whichever mode the rule is checked, makes no difference. -/
theorem valid_ofArguments_iff (header : Header) (arguments : List Argument) :
    (validate header (Store.ofArguments arguments).conditions = .ok () ↔
        (0 < header.id ∧ 0 ≤ header.level ∧ header.level ≤ 16 ∧
          header.frequency ≠ some 0 ∧ header.timeframe ≠ some 0) ∧
        ∀ argument ∈ arguments, ∀ attr, argument.tag.takes attr = true →
          ∀ value ∈ lastGiven? attr argument.attributes,
            value = "" ∨ value = "no" ∨ attr.admits value = true) ∧
      (∀ mode, validate header (Store.ofArguments arguments).conditions = .ok () ↔
        ∀ finding ∈ findings mode header (Store.ofArguments arguments).conditions,
          finding.isError = false) ∧
      ∀ others, List.Forall₂ Argument.Alike arguments others →
        (validate header (Store.ofArguments others).conditions = .ok () ↔
          validate header (Store.ofArguments arguments).conditions = .ok ()) := by
  refine ⟨?_, ?_, ?_⟩
  · rw [validate_ofArguments]
    refine and_congr_left fun _ => ⟨?_, ?_⟩
    · intro h
      exact ⟨h.id, h.level.1, h.level.2, h.frequency, h.timeframe⟩
    · rintro ⟨hid, hlow, hhigh, hfrequency, htimeframe⟩
      exact ⟨hid, ⟨hlow, hhigh⟩, hfrequency, htimeframe⟩
  · intro mode
    rw [validate_eq_ok_iff_errors mode, List.filter_eq_nil_iff]
    simp only [Bool.not_eq_true]
  · intro others hsame
    rw [validate_ofArguments, validate_ofArguments, passes_congr hsame]

theorem valid_ofArguments_iff_repeatedKey :
    validate {} (Store.ofArguments
      [⟨.regex, [(.type, "glob"), (.type, "pcre2")], "x<y"⟩,
        ⟨.field, [(.negate, "maybe"), (.name, "user")], ""⟩]).conditions = .ok () := by
  have hplain : validate {} (Store.ofArguments
      [⟨.regex, [(.type, "pcre2")], "y"⟩, ⟨.field, [(.name, "user")], "z"⟩]).conditions
      = .ok () := by
    decide
  have hregex : Argument.Alike ⟨.regex, [(.type, "glob"), (.type, "pcre2")], "x<y"⟩
      ⟨.regex, [(.type, "pcre2")], "y"⟩ := by
    refine ⟨rfl, fun attr => ?_⟩
    cases attr <;> decide
  have hfield : Argument.Alike ⟨.field, [(.negate, "maybe"), (.name, "user")], ""⟩
      ⟨.field, [(.name, "user")], "z"⟩ := by
    refine ⟨rfl, fun attr => ?_⟩
    cases attr <;> decide
  have hverdict := (valid_ofArguments_iff {} _).2.2 _ (.cons hregex (.cons hfield .nil))
  exact hverdict.1 hplain

end DetectionRule
