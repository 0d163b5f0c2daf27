import DetectionRule.Proofs.Text.Cutting
import DetectionRule.Rule.Checks

/-!
# Which findings there are, and where

What is found in a rule is what its header, its lack of conditions and each of its conditions are at
fault for (`mem_findings`). No step of a path has a slash in it, so that a path says of which
condition and of what in it a finding speaks: `path_eq_valuePath_iff`, `path_eq_attributePath_iff`.
-/

namespace DetectionRule

variable {mode : TextMode} {header : Header} {conditions : List Condition} {condition : Condition}
  {attr : Attribute} {value : String} {finding : Finding}

/-- The header is as the fault says. -/
def HeaderFault.Holds (header : Header) : HeaderFault → Prop
  | nonPositiveId id => header.id = id ∧ id ≤ 0
  | levelOutOfRange level =>
    header.level = level ∧ (level < Header.minLevel ∨ Header.maxLevel < level)
  | zeroFrequency => header.frequency = some 0
  | zeroTimeframe => header.timeframe = some 0
  | frequencyAlone => header.frequency ≠ none ∧ header.timeframe = none
  | timeframeAlone => header.frequency = none ∧ header.timeframe ≠ none

theorem Header.mem_faults {fault : HeaderFault} : fault ∈ header.faults ↔ fault.Holds header := by
  obtain ⟨id, level, frequency, timeframe⟩ := header
  have hlone : ∀ fault, fault ∈ Header.loneCount ⟨id, level, frequency, timeframe⟩ ↔
      (fault = .frequencyAlone ∧ frequency ≠ none ∧ timeframe = none) ∨
        (fault = .timeframeAlone ∧ frequency = none ∧ timeframe ≠ none) := by
    cases frequency <;> cases timeframe <;> simp [loneCount]
  simp only [faults, List.mem_append, hlone]
  cases fault <;> simp [HeaderFault.Holds, eq_comm, and_comm]
  case nonPositiveId given | levelOutOfRange given =>
    rintro rfl
    exact Iff.rfl

namespace Condition

theorem mem_misplaced :
    attr ∈ condition.misplaced ↔
      attr ∈ condition.attributes.keys ∧ condition.tag.takes attr = false := by
  simp [misplaced]

theorem mem_invalidAttributes :
    (attr, value) ∈ condition.invalidAttributes ↔
      (attr, value) ∈ condition.attributes.entries ∧ condition.tag.takes attr = true ∧
        attr.admits value = false := by
  simp [invalidAttributes]

theorem misplacedAttribute_mem_faults :
    .misplacedAttribute attr ∈ condition.faults mode ↔ attr ∈ condition.misplaced := by
  cases mode <;> simp [faults, markupFaults]

theorem invalidValue_mem_faults :
    .invalidValue attr value ∈ condition.faults mode ↔
      (attr, value) ∈ condition.invalidAttributes := by
  cases mode <;> simp [faults, markupFaults]

theorem markupInValue_mem_faults :
    .markupInValue ∈ condition.faults mode ↔
      mode = .verbatim ∧ Markup.occursIn condition.value = true := by
  cases mode <;> simp [faults, markupFaults]

theorem markupInAttribute_mem_faults :
    .markupInAttribute attr ∈ condition.faults mode ↔
      mode = .verbatim ∧ ∃ value, (attr, value) ∈ condition.attributes.entries ∧
        condition.tag.isContentOnly = false ∧ Markup.occursIn value = true := by
  cases mode <;> simp [faults, markupFaults]

theorem emptyValue_mem_faults : .emptyValue ∈ condition.faults mode ↔ condition.value = "" := by
  cases mode <;> simp [faults, markupFaults]

end Condition

/-- All faults of the list were found by the check. -/
def ConditionFault.AllOf (check : Check) (faults : List ConditionFault) : Prop :=
  ∀ fault ∈ faults, fault.check = check

namespace ConditionFault.AllOf

variable {check : Check} {faults : List ConditionFault}

theorem map {α : Type} {as : List α} {fault : α → ConditionFault}
    (h : ∀ a, (fault a).check = check) : AllOf check (as.map fault) := by
  intro made hmade
  obtain ⟨a, -, rfl⟩ := List.mem_map.1 hmade
  exact h a

theorem ite {p : Prop} [Decidable p] (h : AllOf check faults) :
    AllOf check (if p then faults else []) := by
  split
  · exact h
  · exact fun fault hfault => absurd hfault List.not_mem_nil

theorem singleton {fault : ConditionFault} : AllOf fault.check [fault] :=
  fun _ h => congrArg ConditionFault.check (List.mem_singleton.1 h)

theorem filter_eq (h : AllOf check faults) (test : Check → Bool) :
    faults.filter (fun fault => test fault.check) = if test check then faults else [] := by
  split
  next htest =>
    exact List.filter_eq_self.2 fun fault hfault => (congrArg test (h fault hfault)).trans htest
  next htest =>
    exact List.filter_eq_nil_iff.2 fun fault hfault => h fault hfault ▸ htest

end ConditionFault.AllOf

namespace Condition

theorem allOf_misplaced (condition : Condition) : ConditionFault.AllOf .attributeNotAllowed
    (condition.misplaced.map .misplacedAttribute) :=
  .map fun _ => rfl

theorem allOf_invalidAttributes (condition : Condition) :
    ConditionFault.AllOf .invalidAttributeValue
      (condition.invalidAttributes.map fun entry => .invalidValue entry.1 entry.2) :=
  .map fun _ => rfl

theorem allOf_markupFaults (condition : Condition) :
    ConditionFault.AllOf .unescapedMarkup condition.markupFaults :=
  List.forall_mem_append.2
    ⟨ConditionFault.AllOf.singleton.ite, ConditionFault.AllOf.map fun _ => rfl⟩

theorem allOf_emptyValue (condition : Condition) :
    ConditionFault.AllOf .emptyValue (if condition.value = "" then [.emptyValue] else []) :=
  ConditionFault.AllOf.singleton.ite

/-- The faults come in four groups, each of one check. -/
theorem filter_faults (mode : TextMode) (condition : Condition) (test : Check → Bool) :
    (condition.faults mode).filter (fun fault => test fault.check) =
      (if test .attributeNotAllowed then condition.misplaced.map .misplacedAttribute else [])
        ++ (if test .invalidAttributeValue then
              condition.invalidAttributes.map fun entry => .invalidValue entry.1 entry.2 else [])
        ++ (if test .unescapedMarkup then
              if mode = .verbatim then condition.markupFaults else [] else [])
        ++ (if test .emptyValue then if condition.value = "" then [.emptyValue] else []
            else []) := by
  rw [faults, List.filter_append, List.filter_append, List.filter_append,
    condition.allOf_misplaced.filter_eq, condition.allOf_invalidAttributes.filter_eq,
    condition.allOf_markupFaults.ite.filter_eq, condition.allOf_emptyValue.filter_eq]

end Condition

/-! ### The findings of a rule -/

theorem mem_findings :
    finding ∈ findings mode header conditions ↔
      (∃ fault ∈ header.faults, finding = .header fault) ∨
        (conditions = [] ∧ finding = .noConditions) ∨
        ∃ (i : Nat) (condition : Condition), conditions[i]? = some condition ∧
          ∃ fault ∈ condition.faults mode,
            finding = .condition i condition.id condition.tag fault := by
  rw [findings, List.mem_append, List.mem_append, or_assoc]
  refine or_congr ?_ (or_congr ?_ ?_)
  · rw [List.mem_map]
    exact exists_congr fun fault => and_congr_right fun _ => eq_comm
  · cases conditions <;> simp
  · rw [List.mem_flatMap]
    constructor
    · rintro ⟨⟨condition, i⟩, hplace, hfinding⟩
      obtain ⟨fault, hfault, rfl⟩ := List.mem_map.1 hfinding
      exact ⟨i, condition, List.mem_zipIdx_iff_getElem?.1 hplace, fault, hfault, rfl⟩
    · rintro ⟨i, condition, hplace, fault, hfault, rfl⟩
      exact ⟨(condition, i), List.mem_zipIdx_iff_getElem?.2 hplace,
        List.mem_map.2 ⟨fault, hfault, rfl⟩⟩

theorem condition_mem_findings {i : Nat} {id : Handle} {tag : Tag} {fault : ConditionFault} :
    .condition i id tag fault ∈ findings mode header conditions ↔
      ∃ condition, conditions[i]? = some condition ∧ condition.id = id ∧ condition.tag = tag ∧
        fault ∈ condition.faults mode := by
  rw [mem_findings]
  constructor
  · rintro (⟨fault, -, h⟩ | ⟨-, h⟩ | ⟨i, condition, hplace, fault, hfault, h⟩)
    · cases h
    · cases h
    · cases h
      exact ⟨condition, hplace, rfl, rfl, hfault⟩
  · rintro ⟨condition, hplace, rfl, rfl, hfault⟩
    exact .inr (.inr ⟨i, condition, hplace, fault, hfault, rfl⟩)

theorem filter_header_eq_self (test : Check → Bool)
    (h : ∀ fault : HeaderFault, test fault.check = true) :
    (header.faults.map Finding.header).filter (fun finding => test finding.check)
      = header.faults.map .header := by
  apply List.filter_eq_self.2
  intro finding hfinding
  obtain ⟨fault, -, rfl⟩ := List.mem_map.1 hfinding
  exact h fault

/-! ### Paths -/

/-- A text of letters, digits and underscores. -/
def IsPathStep (s : String) : Prop := ∀ c ∈ s.toList, c.isAlphanum = true ∨ c = '_'

instance (s : String) : Decidable (IsPathStep s) :=
  List.decidableBAll (fun c : Char => c.isAlphanum = true ∨ c = '_') s.toList

theorem IsPathStep.not_mem {s : String} {c : Char} (h : IsPathStep s)
    (hc : c.isAlphanum = false ∧ c ≠ '_') : c ∉ s.toList := by
  intro hm
  rcases h c hm with hword | hunderscore
  · rw [hc.1] at hword
    cases hword
  · exact hc.2 hunderscore

theorem Attribute.isPathStep_text (attr : Attribute) : IsPathStep attr.text := by
  cases attr <;> decide

theorem HeaderFault.isPathStep_field (fault : HeaderFault) : IsPathStep fault.field := by
  cases fault <;> simp [IsPathStep, field]

theorem Text.Decimal.isPathStep_natural (n : Nat) : IsPathStep (natural n) := by
  intro c hc
  rw [Char.isAlphanum, isDigit_of_mem_natural hc, Bool.or_true]
  exact .inl rfl

theorem ConditionFault.isPathStep_of_mem_steps {fault : ConditionFault} :
    ∀ step ∈ fault.steps, IsPathStep step := by
  intro step h
  cases fault <;> simp only [steps, List.mem_cons, List.not_mem_nil, or_false] at h
  case misplacedAttribute attr | invalidValue attr value | markupInAttribute attr =>
    rcases h with rfl | rfl
    · decide
    · exact attr.isPathStep_text
  case markupInValue | emptyValue =>
    subst h
    decide

namespace Finding

theorem isPathStep_of_mem_steps (finding : Finding) : ∀ step ∈ finding.steps, IsPathStep step := by
  intro step h
  cases finding with
  | header fault =>
    rw [steps, List.mem_cons, List.mem_singleton] at h
    rcases h with rfl | rfl
    · decide
    · exact fault.isPathStep_field
  | noConditions =>
    rw [steps, List.mem_singleton] at h
    subst h
    decide
  | condition i id tag fault =>
    rw [steps, List.mem_cons, List.mem_cons] at h
    rcases h with rfl | rfl | h
    · decide
    · exact Text.Decimal.isPathStep_natural i
    · exact ConditionFault.isPathStep_of_mem_steps step h

theorem pieces_join {steps : List String} (h : ∀ step ∈ steps, IsPathStep step) :
    Text.pieces '/' (String.join (steps.map fun step => "/" ++ step)).toList
      = [] :: steps.map String.toList := by
  have hfree : ∀ step ∈ steps, '/' ∉ step.toList := fun step hs => (h step hs).not_mem (by decide)
  rw [String.toList_join, List.flatMap_map]
  simpa using Text.pieces_flatMap_cons hfree

/-- A path falls into its steps again at the slashes. -/
theorem path_eq_iff {steps : List String} (h : ∀ step ∈ steps, IsPathStep step) :
    finding.path = String.join (steps.map fun step => "/" ++ step) ↔ finding.steps = steps := by
  constructor
  · intro heq
    have hcut := congrArg (fun s : String => Text.pieces '/' s.toList) heq
    simp only [path, pieces_join finding.isPathStep_of_mem_steps, pieces_join h, List.cons.injEq,
      true_and] at hcut
    exact List.map_injective_iff.2 (fun _ _ => String.toList_inj.1) hcut
  · rintro rfl
    rfl

def valuePath (i : Nat) : String := "/conditions/" ++ Text.Decimal.natural i ++ "/value"

def attributePath (i : Nat) (attr : Attribute) : String :=
  "/conditions/" ++ Text.Decimal.natural i ++ "/attributes/" ++ attr.text

theorem steps_eq_cons_iff {i : Nat} {place : List String} :
    finding.steps = "conditions" :: Text.Decimal.natural i :: place ↔
      ∃ id tag fault, finding = .condition i id tag fault ∧ fault.steps = place := by
  constructor
  · intro h
    cases finding with
    | header fault =>
      rw [steps, List.cons.injEq] at h
      exact absurd h.1 (by decide)
    | noConditions => cases h
    | condition j id tag fault =>
      rw [steps, List.cons.injEq, List.cons.injEq, Text.Decimal.natural_inj] at h
      obtain ⟨-, rfl, hsteps⟩ := h
      exact ⟨id, tag, fault, rfl, hsteps⟩
  · rintro ⟨id, tag, fault, rfl, hsteps⟩
    rw [steps, hsteps]

theorem path_eq_valuePath_iff {i : Nat} :
    finding.path = valuePath i ↔
      ∃ id tag fault, finding = .condition i id tag fault ∧ fault.steps = ["value"] := by
  have hjoin : valuePath i = String.join
      (["conditions", Text.Decimal.natural i, "value"].map fun step => "/" ++ step) := by
    apply String.toList_injective
    simp [valuePath]
  have hsteps : ∀ step ∈ ["conditions", Text.Decimal.natural i, "value"], IsPathStep step := by
    simp [Text.Decimal.isPathStep_natural, show IsPathStep "conditions" by decide,
      show IsPathStep "value" by decide]
  rw [hjoin, path_eq_iff hsteps, steps_eq_cons_iff]

theorem path_eq_attributePath_iff {i : Nat} :
    finding.path = attributePath i attr ↔
      ∃ id tag fault, finding = .condition i id tag fault ∧
        fault.steps = ["attributes", attr.text] := by
  have hjoin : attributePath i attr = String.join
      (["conditions", Text.Decimal.natural i, "attributes", attr.text].map
        fun step => "/" ++ step) := by
    apply String.toList_injective
    simp [attributePath]
  have hsteps : ∀ step ∈ ["conditions", Text.Decimal.natural i, "attributes", attr.text],
      IsPathStep step := by
    simp [Text.Decimal.isPathStep_natural, Attribute.isPathStep_text,
      show IsPathStep "conditions" by decide, show IsPathStep "attributes" by decide]
  rw [hjoin, path_eq_iff hsteps, steps_eq_cons_iff]

end Finding

theorem ConditionFault.exists_steps_eq_cons (fault : ConditionFault) :
    ∃ step steps, fault.steps = step :: steps := by
  cases fault <;> exact ⟨_, _, rfl⟩

/-- How a path leads on from the condition depends on the fault alone. -/
theorem ConditionFault.exists_place (fault : ConditionFault) :
    ∃ place, ∀ (i : Nat) (id : Handle) (tag : Tag), (Finding.condition i id tag fault).path
      = "/conditions/" ++ Text.Decimal.natural i ++ "/" ++ place := by
  obtain ⟨step, steps, hsteps⟩ := fault.exists_steps_eq_cons
  refine ⟨step ++ String.join (steps.map fun step => "/" ++ step), ?_⟩
  intro i id tag
  apply String.toList_injective
  simp [Finding.path, Finding.steps, hsteps, String.toList_join]

theorem Finding.path_condition (i : Nat) (id : Handle) (tag : Tag) (fault : ConditionFault) :
    ∃ place, (Finding.condition i id tag fault).path
      = "/conditions/" ++ Text.Decimal.natural i ++ "/" ++ place := by
  obtain ⟨place, hpath⟩ := fault.exists_place
  exact ⟨place, hpath i id tag⟩

/-- A path that leads on from a condition is that of a finding about the condition. -/
theorem Finding.eq_condition_of_path {i : Nat} {place : String}
    (h : finding.path = "/conditions/" ++ Text.Decimal.natural i ++ "/" ++ place) :
    ∃ id tag fault, finding = .condition i id tag fault := by
  have hcut := congrArg (fun s : String => Text.pieces '/' s.toList) h
  have hwhole : ("/conditions/" ++ Text.Decimal.natural i ++ "/" ++ place).toList
      = '/' :: ("conditions".toList ++ '/' :: ((Text.Decimal.natural i).toList
        ++ '/' :: place.toList)) := by
    simp
  have hnumber := (Text.Decimal.isPathStep_natural i).not_mem (c := '/') (by decide)
  simp only [path, pieces_join finding.isPathStep_of_mem_steps, hwhole] at hcut
  rw [Text.pieces, if_pos rfl, Text.pieces_append_cons (by decide),
    Text.pieces_append_cons hnumber, List.cons.injEq] at hcut
  cases finding with
  | header fault =>
    have hfirst : "header".toList = "conditions".toList := (List.cons.inj hcut.2).1
    exact absurd hfirst (by decide)
  | noConditions => cases (List.cons.inj hcut.2).2
  | condition j id tag fault =>
    have hsecond : (Text.Decimal.natural j).toList = (Text.Decimal.natural i).toList :=
      (List.cons.inj (List.cons.inj hcut.2).2).1
    rw [String.toList_inj, Text.Decimal.natural_inj] at hsecond
    subst hsecond
    exact ⟨id, tag, fault, rfl⟩

theorem Finding.place_of_condition? {id : Handle}
    (h : finding ∈ findings mode header conditions) (hid : finding.condition? = some id) :
    ∃ (i : Nat) (place : String) (condition : Condition),
      finding.path = "/conditions/" ++ Text.Decimal.natural i ++ "/" ++ place ∧
      conditions[i]? = some condition ∧ condition.id = id := by
  cases finding with
  | header fault => cases hid
  | noConditions => cases hid
  | condition i id tag fault =>
    cases hid
    obtain ⟨condition, hplace, hid, -, -⟩ := condition_mem_findings.1 h
    obtain ⟨place, hpath⟩ := path_condition i id tag fault
    exact ⟨i, place, condition, hpath, hplace, hid⟩

/-- What a check finds at a place of a condition is what it finds in the condition by itself. -/
theorem exists_finding_iff {check : Check} {path : String} {i : Nat} {place : List String}
    (hpath : ∀ finding : Finding, finding.path = path ↔
      ∃ id tag fault, finding = .condition i id tag fault ∧ fault.steps = place) :
    (∃ finding ∈ findings mode header conditions, finding.check = check ∧ finding.path = path) ↔
      ∃ condition, conditions[i]? = some condition ∧
        ∃ fault ∈ condition.faults mode, fault.check = check ∧ fault.steps = place := by
  constructor
  · rintro ⟨finding, hfinding, hcheck, hplace⟩
    obtain ⟨id, tag, fault, rfl, hsteps⟩ := (hpath finding).1 hplace
    obtain ⟨condition, hc, -, -, hfault⟩ := condition_mem_findings.1 hfinding
    exact ⟨condition, hc, fault, hfault, hcheck, hsteps⟩
  · rintro ⟨condition, hc, fault, hfault, hcheck, hsteps⟩
    exact ⟨.condition i condition.id condition.tag fault,
      condition_mem_findings.2 ⟨condition, hc, rfl, rfl, hfault⟩, hcheck,
      (hpath _).2 ⟨_, _, _, rfl, hsteps⟩⟩

end DetectionRule
