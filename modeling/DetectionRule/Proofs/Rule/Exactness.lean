import DetectionRule.Proofs.Rule.Invariant
import DetectionRule.Proofs.Rule.Place

/-!
# What is found, and what is not

`Fails` says what each check looks for, and to what the path of a finding leads, without speaking of
how findings are made. The findings of a rule are those for which it holds; none is there twice, an
attribute is not both misplaced and invalid, and findings come in the order of the document. Main
statement: `run_findingsExact`.
-/

namespace DetectionRule

/-- One of the characters is in the text that would be read as markup. -/
def HasMarkup (s : String) : Prop := ∃ c ∈ s.toList, c = '<' ∨ c = '>' ∨ c = '&' ∨ c = '"'

/-- The attribute has a list of values, and the value is not in it. -/
def Attribute.Rejects (attr : Attribute) (value : String) : Prop :=
  ∃ values, attr.values? = some values ∧ value ∉ values

/-- The check finds something in the header, and the path leads to it. -/
def Header.Fails (header : Header) : Check → String → Prop
  | .nonPositiveId, path => header.id ≤ 0 ∧ path = "/header/id"
  | .levelOutOfRange, path => ¬(0 ≤ header.level ∧ header.level ≤ 16) ∧ path = "/header/level"
  | .nonPositiveFrequency, path => header.frequency = some 0 ∧ path = "/header/frequency"
  | .nonPositiveTimeframe, path => header.timeframe = some 0 ∧ path = "/header/timeframe"
  | .frequencyWithoutTimeframe, path =>
    (header.frequency ≠ none ∧ header.timeframe = none) ∧ path = "/header/frequency"
  | .timeframeWithoutFrequency, path =>
    (header.frequency = none ∧ header.timeframe ≠ none) ∧ path = "/header/timeframe"
  | _, _ => False

/-- The check finds something in the condition at the place `i`, and the path leads to it. -/
def Condition.Fails (mode : TextMode) (i : Nat) (condition : Condition) : Check → String → Prop
  | .attributeNotAllowed, path =>
    ∃ attr ∈ condition.attributes.keys, attr ∉ condition.tag.attributes ∧
      path = Finding.attributePath i attr
  | .invalidAttributeValue, path =>
    ∃ entry ∈ condition.attributes.entries, entry.1 ∈ condition.tag.attributes ∧
      entry.1.Rejects entry.2 ∧ path = Finding.attributePath i entry.1
  | .unescapedMarkup, path =>
    mode = .verbatim ∧
      ((HasMarkup condition.value ∧ path = Finding.valuePath i) ∨
        (condition.tag.form = .attributeBearing ∧ ∃ entry ∈ condition.attributes.entries,
          HasMarkup entry.2 ∧ path = Finding.attributePath i entry.1))
  | .emptyValue, path => condition.value = "" ∧ path = Finding.valuePath i
  | _, _ => False

def Fails (mode : TextMode) (header : Header) (conditions : List Condition) (check : Check)
    (path : String) : Prop :=
  header.Fails check path ∨
    (conditions = [] ∧ check = .noConditions ∧ path = "/conditions") ∨
    ∃ (i : Nat) (condition : Condition), conditions[i]? = some condition ∧
      condition.Fails mode i check path

variable {mode : TextMode} {header : Header} {conditions : List Condition} {condition : Condition}
  {attr : Attribute} {value : String} {check : Check} {path : String} {i : Nat}

theorem hasMarkup_iff {s : String} : HasMarkup s ↔ Markup.occursIn s = true := by
  rw [HasMarkup, Markup.occursIn, List.any_eq_true]
  refine exists_congr fun c => and_congr_right fun _ => ?_
  rw [Markup.isMarkup_iff]
  tauto

theorem Attribute.rejects_iff : attr.Rejects value ↔ attr.admits value = false := by
  rw [Rejects, admits]
  cases attr.values? <;> simp

theorem Tag.not_mem_attributes_iff {tag : Tag} :
    attr ∉ tag.attributes ↔ tag.takes attr = false := by
  simp [takes]

theorem Tag.mem_attributes_iff {tag : Tag} : attr ∈ tag.attributes ↔ tag.takes attr = true := by
  simp [takes]

theorem Tag.form_eq_attributeBearing_iff {tag : Tag} :
    tag.form = .attributeBearing ↔ tag.isContentOnly = false := by
  rw [isContentOnly]
  cases tag.form <;> decide

theorem Header.fails_iff : header.Fails check path ↔
    ∃ fault ∈ header.faults, fault.check = check ∧ (Finding.header fault).path = path := by
  simp only [mem_faults]
  constructor
  · intro h
    cases check with
    | nonPositiveId =>
      obtain ⟨hid, rfl⟩ := h
      exact ⟨.nonPositiveId header.id, ⟨rfl, hid⟩, rfl, rfl⟩
    | levelOutOfRange =>
      obtain ⟨hlevel, rfl⟩ := h
      have hout : header.level < minLevel ∨ maxLevel < header.level := by
        simp only [minLevel, maxLevel]
        omega
      exact ⟨.levelOutOfRange header.level, ⟨rfl, hout⟩, rfl, rfl⟩
    | nonPositiveFrequency =>
      obtain ⟨hzero, rfl⟩ := h
      exact ⟨.zeroFrequency, hzero, rfl, rfl⟩
    | nonPositiveTimeframe =>
      obtain ⟨hzero, rfl⟩ := h
      exact ⟨.zeroTimeframe, hzero, rfl, rfl⟩
    | frequencyWithoutTimeframe =>
      obtain ⟨halone, rfl⟩ := h
      exact ⟨.frequencyAlone, halone, rfl, rfl⟩
    | timeframeWithoutFrequency =>
      obtain ⟨halone, rfl⟩ := h
      exact ⟨.timeframeAlone, halone, rfl, rfl⟩
    | noConditions | attributeNotAllowed | invalidAttributeValue | unescapedMarkup | emptyValue =>
      exact h.elim
  · rintro ⟨fault, hfault, rfl, rfl⟩
    cases fault with
    | nonPositiveId id =>
      obtain ⟨rfl, hid⟩ := hfault
      exact ⟨hid, rfl⟩
    | levelOutOfRange level =>
      obtain ⟨rfl, hout⟩ := hfault
      simp only [minLevel, maxLevel] at hout
      exact ⟨by omega, rfl⟩
    | zeroFrequency | zeroTimeframe | frequencyAlone | timeframeAlone => exact ⟨hfault, rfl⟩

/-! ### In a condition -/

theorem Finding.path_attribute {id : Handle} {tag : Tag} {fault : ConditionFault}
    (h : fault.steps = ["attributes", attr.text]) :
    (Finding.condition i id tag fault).path = attributePath i attr :=
  path_eq_attributePath_iff.2 ⟨id, tag, fault, rfl, h⟩

theorem Finding.path_value {id : Handle} {tag : Tag} {fault : ConditionFault}
    (h : fault.steps = ["value"]) : (Finding.condition i id tag fault).path = valuePath i :=
  path_eq_valuePath_iff.2 ⟨id, tag, fault, rfl, h⟩

theorem Condition.fails_iff : condition.Fails mode i check path ↔
    ∃ fault ∈ condition.faults mode, fault.check = check ∧
      (Finding.condition i condition.id condition.tag fault).path = path := by
  constructor
  · intro h
    cases check with
    | attributeNotAllowed =>
      obtain ⟨attr, hkey, hattr, rfl⟩ := h
      have hfault := mem_misplaced.2 ⟨hkey, Tag.not_mem_attributes_iff.1 hattr⟩
      exact ⟨_, misplacedAttribute_mem_faults.2 hfault, rfl, Finding.path_attribute rfl⟩
    | invalidAttributeValue =>
      obtain ⟨⟨attr, value⟩, hentry, hattr, hvalue, rfl⟩ := h
      have hfault := mem_invalidAttributes.2
        ⟨hentry, Tag.mem_attributes_iff.1 hattr, Attribute.rejects_iff.1 hvalue⟩
      exact ⟨_, invalidValue_mem_faults.2 hfault, rfl, Finding.path_attribute rfl⟩
    | unescapedMarkup =>
      obtain ⟨hmode, ⟨hmarkup, rfl⟩ | ⟨hform, ⟨attr, value⟩, hentry, hmarkup, rfl⟩⟩ := h
      · exact ⟨_, markupInValue_mem_faults.2 ⟨hmode, hasMarkup_iff.1 hmarkup⟩, rfl,
          Finding.path_value rfl⟩
      · exact ⟨_, markupInAttribute_mem_faults.2 ⟨hmode, value, hentry,
          Tag.form_eq_attributeBearing_iff.1 hform, hasMarkup_iff.1 hmarkup⟩, rfl,
          Finding.path_attribute rfl⟩
    | emptyValue =>
      obtain ⟨hempty, rfl⟩ := h
      exact ⟨_, emptyValue_mem_faults.2 hempty, rfl, Finding.path_value rfl⟩
    | levelOutOfRange | nonPositiveId | nonPositiveFrequency | nonPositiveTimeframe
      | frequencyWithoutTimeframe | timeframeWithoutFrequency | noConditions => exact h.elim
  · rintro ⟨fault, hfault, rfl, rfl⟩
    cases fault with
    | misplacedAttribute attr =>
      obtain ⟨hkey, hattr⟩ := mem_misplaced.1 (misplacedAttribute_mem_faults.1 hfault)
      exact ⟨attr, hkey, Tag.not_mem_attributes_iff.2 hattr, Finding.path_attribute rfl⟩
    | invalidValue attr value =>
      obtain ⟨hentry, hattr, hvalue⟩ := mem_invalidAttributes.1 (invalidValue_mem_faults.1 hfault)
      exact ⟨(attr, value), hentry, Tag.mem_attributes_iff.2 hattr, Attribute.rejects_iff.2 hvalue,
        Finding.path_attribute rfl⟩
    | markupInValue =>
      obtain ⟨hmode, hmarkup⟩ := markupInValue_mem_faults.1 hfault
      exact ⟨hmode, .inl ⟨hasMarkup_iff.2 hmarkup, Finding.path_value rfl⟩⟩
    | markupInAttribute attr =>
      obtain ⟨hmode, value, hentry, hform, hmarkup⟩ := markupInAttribute_mem_faults.1 hfault
      exact ⟨hmode, .inr ⟨Tag.form_eq_attributeBearing_iff.2 hform, (attr, value), hentry,
        hasMarkup_iff.2 hmarkup, Finding.path_attribute rfl⟩⟩
    | emptyValue =>
      exact ⟨emptyValue_mem_faults.1 hfault, Finding.path_value rfl⟩

theorem exists_finding_iff_fails :
    (∃ finding ∈ findings mode header conditions, finding.check = check ∧ finding.path = path) ↔
      Fails mode header conditions check path := by
  simp only [mem_findings]
  constructor
  · rintro ⟨finding, ⟨fault, hfault, rfl⟩ | ⟨hnone, rfl⟩ |
      ⟨i, condition, hplace, fault, hfault, rfl⟩, hcheck, hpath⟩
    · exact .inl (Header.fails_iff.2 ⟨fault, hfault, hcheck, hpath⟩)
    · exact .inr (.inl ⟨hnone, hcheck.symm, hpath.symm⟩)
    · exact .inr (.inr ⟨i, condition, hplace,
        Condition.fails_iff.2 ⟨fault, hfault, hcheck, hpath⟩⟩)
  · rintro (hheader | ⟨hnone, rfl, rfl⟩ | ⟨i, condition, hplace, hcondition⟩)
    · obtain ⟨fault, hfault, hcheck, hpath⟩ := Header.fails_iff.1 hheader
      exact ⟨.header fault, .inl ⟨fault, hfault, rfl⟩, hcheck, hpath⟩
    · exact ⟨.noConditions, .inr (.inl ⟨hnone, rfl⟩), rfl, rfl⟩
    · obtain ⟨fault, hfault, hcheck, hpath⟩ := Condition.fails_iff.1 hcondition
      exact ⟨_, .inr (.inr ⟨i, condition, hplace, fault, hfault, rfl⟩), hcheck, hpath⟩

/-! ### Once each -/

/-- Two faults that one check finds are at different places of the condition. -/
def ConditionFault.Apart (first second : ConditionFault) : Prop :=
  first.check = second.check → first.steps ≠ second.steps

/-- Two findings of one check have different paths. -/
def Finding.Apart (first second : Finding) : Prop :=
  first.check = second.check → first.path ≠ second.path

theorem Header.checks_sublist (header : Header) : (header.faults.map HeaderFault.check).Sublist
    ([.nonPositiveId] ++ [.levelOutOfRange] ++ [.nonPositiveFrequency] ++ [.nonPositiveTimeframe]
      ++ [.frequencyWithoutTimeframe, .timeframeWithoutFrequency]) := by
  have hone : ∀ (p : Prop) [Decidable p] (fault : HeaderFault),
      ((if p then [fault] else []).map HeaderFault.check).Sublist [fault.check] := by
    intro p _ fault
    split <;> simp
  have hlone : (header.loneCount.map HeaderFault.check).Sublist
      [.frequencyWithoutTimeframe, .timeframeWithoutFrequency] := by
    rw [loneCount]
    split <;> simp [HeaderFault.check]
  rw [faults, List.map_append, List.map_append, List.map_append, List.map_append]
  exact ((((hone _ _).append (hone _ _)).append (hone _ _)).append (hone _ _)).append hlone

theorem Header.pairwise_apart (header : Header) :
    (header.faults.map Finding.header).Pairwise Finding.Apart := by
  have hchecks : (header.faults.map HeaderFault.check).Nodup :=
    List.Nodup.sublist header.checks_sublist (by decide)
  rw [List.pairwise_map]
  exact (List.pairwise_map.1 hchecks).imp fun hne hcheck => absurd hcheck hne

theorem ConditionFault.pairwise_apart_map {α : Type} {as : List α} {fault : α → ConditionFault}
    (key : α → Attribute) (hsteps : ∀ a, (fault a).steps = ["attributes", (key a).text])
    (distinct : (as.map key).Nodup) : (as.map fault).Pairwise Apart := by
  rw [List.pairwise_map]
  refine (List.pairwise_map.1 distinct).imp ?_
  intro a b hne _ hplace
  rw [hsteps, hsteps] at hplace
  simp only [List.cons.injEq, and_true, true_and] at hplace
  exact hne (Attribute.text_inj.1 hplace)

theorem ConditionFault.AllOf.apart {other : Check} {faults more : List ConditionFault}
    (hfaults : AllOf check faults) (hmore : AllOf other more) (hne : check ≠ other) :
    ∀ first ∈ faults, ∀ second ∈ more, first.Apart second := by
  intro first hfirst second hsecond hcheck
  rw [hfaults first hfirst, hmore second hsecond] at hcheck
  exact absurd hcheck hne

theorem pairwise_ite {α : Type} {R : α → α → Prop} {p : Prop} [Decidable p] {as : List α}
    (h : as.Pairwise R) : (if p then as else []).Pairwise R := by
  split
  · exact h
  · exact List.Pairwise.nil

namespace Condition

theorem pairwise_apart_markupFaults (distinct : condition.attributes.keys.Nodup) :
    condition.markupFaults.Pairwise ConditionFault.Apart := by
  rw [markupFaults, List.pairwise_append]
  refine ⟨pairwise_ite (List.pairwise_singleton ..),
    ConditionFault.pairwise_apart_map Prod.fst (fun _ => rfl)
      (distinct.sublist (List.filter_sublist.map _)), ?_⟩
  intro first hfirst second hsecond _
  obtain ⟨entry, -, rfl⟩ := List.mem_map.1 hsecond
  split at hfirst
  · rw [List.mem_singleton.1 hfirst]
    simp [ConditionFault.steps]
  · cases hfirst

theorem pairwise_apart_faults (distinct : condition.attributes.keys.Nodup) :
    (condition.faults mode).Pairwise ConditionFault.Apart := by
  have hmisplaced : (condition.misplaced.map ConditionFault.misplacedAttribute).Pairwise
      ConditionFault.Apart := by
    refine ConditionFault.pairwise_apart_map (fun attr => attr) (fun _ => rfl) ?_
    rw [List.map_id']
    exact distinct.filter _
  have hinvalid : (condition.invalidAttributes.map fun entry =>
      ConditionFault.invalidValue entry.1 entry.2).Pairwise ConditionFault.Apart :=
    ConditionFault.pairwise_apart_map Prod.fst (fun _ => rfl)
      (distinct.sublist (List.filter_sublist.map _))
  have ofMisplaced := condition.allOf_misplaced
  have ofInvalid := condition.allOf_invalidAttributes
  have ofMarkup : ConditionFault.AllOf .unescapedMarkup
      (if mode = .verbatim then condition.markupFaults else []) := condition.allOf_markupFaults.ite
  have ofEmpty := condition.allOf_emptyValue
  rw [faults, List.pairwise_append, List.pairwise_append, List.pairwise_append]
  refine ⟨⟨⟨hmisplaced, hinvalid, ofMisplaced.apart ofInvalid (by decide)⟩,
    pairwise_ite (pairwise_apart_markupFaults distinct), ?_⟩,
    pairwise_ite (List.pairwise_singleton ..), ?_⟩
  · exact List.forall_mem_append.2
      ⟨ofMisplaced.apart ofMarkup (by decide), ofInvalid.apart ofMarkup (by decide)⟩
  · exact List.forall_mem_append.2 ⟨List.forall_mem_append.2
      ⟨ofMisplaced.apart ofEmpty (by decide), ofInvalid.apart ofEmpty (by decide)⟩,
      ofMarkup.apart ofEmpty (by decide)⟩

theorem pairwise_apart_findings (distinct : condition.attributes.keys.Nodup) (i : Nat) :
    (condition.findings mode i).Pairwise Finding.Apart := by
  rw [findings, List.pairwise_map]
  refine (pairwise_apart_faults distinct).imp ?_
  intro first second hapart hcheck hpath
  refine hapart hcheck ?_
  rw [Finding.path_inj, Finding.steps, Finding.steps, List.cons.injEq, List.cons.injEq] at hpath
  exact hpath.2.2

end Condition

theorem Finding.apart_of_index?_ne {first second : Finding} (h : first.index? ≠ second.index?) :
    first.Apart second :=
  fun _ hpath => h (index?_eq_of_path_eq hpath)

theorem pairwise_apart
    (distinct : ∀ condition ∈ conditions, condition.attributes.keys.Nodup) :
    (findings mode header conditions).Pairwise Finding.Apart := by
  refine pairwise_findings header.pairwise_apart ?_ ?_ ?_ ?_
  · intro fault hcheck
    cases fault <;> cases hcheck
  · intro first second j hfirst hsecond
    apply Finding.apart_of_index?_ne
    rw [hfirst, hsecond]
    exact nofun
  · exact fun condition hc => Condition.pairwise_apart_findings (distinct condition hc)
  · intro first second i j hfirst hsecond hlt
    apply Finding.apart_of_index?_ne
    rw [hfirst, hsecond]
    exact fun e => absurd (Option.some_inj.1 e) (Nat.ne_of_lt hlt)

/-! ### One by one, in order -/

/-- Once a finding is about a condition, all after it are about that one or about later ones. -/
theorem pairwise_under : (findings mode header conditions).Pairwise fun first second =>
    ∀ i, first.Under i → ∃ j, i ≤ j ∧ second.Under j := by
  simp only [Finding.under_iff]
  refine pairwise_findings ?_ ?_ ?_ ?_ ?_
  · apply List.pairwise_of_forall_mem_list
    intro first hfirst second _ i hi
    rw [index?_of_mem_faults hfirst] at hi
    cases hi
  · exact fun _ => nofun
  · intro first second j hfirst _ i hi
    rw [hfirst] at hi
    cases hi
  · intro condition _ i
    apply List.pairwise_of_forall_mem_list
    intro first hfirst second hsecond k hk
    rw [index?_of_mem_findings hfirst] at hk
    obtain rfl : i = k := Option.some_inj.1 hk
    exact ⟨i, Nat.le_refl i, index?_of_mem_findings hsecond⟩
  · intro first second i j hfirst hsecond hlt k hk
    rw [hfirst] at hk
    obtain rfl : i = k := Option.some_inj.1 hk
    exact ⟨j, Nat.le_of_lt hlt, hsecond⟩

theorem Finding.attributePath_inj {j : Nat} {other : Attribute}
    (h : attributePath i attr = attributePath j other) : i = j ∧ attr = other := by
  have hpath : (Finding.condition i ⟨0⟩ default (.misplacedAttribute attr)).path
      = attributePath i attr := path_attribute rfl
  obtain ⟨id, tag, fault, hfinding, hsteps⟩ := path_eq_attributePath_iff.1 (hpath.trans h)
  cases hfinding
  simp only [ConditionFault.steps, List.cons.injEq, and_true, true_and] at hsteps
  exact ⟨rfl, Attribute.text_inj.1 hsteps⟩

/-- The tag of the condition either takes the attribute or it does not. -/
theorem path_ne_of_misplaced_of_invalid {first second : Finding}
    (hfirst : first ∈ findings mode header conditions)
    (hsecond : second ∈ findings mode header conditions)
    (hmisplaced : first.check = .attributeNotAllowed)
    (hinvalid : second.check = .invalidAttributeValue) : first.path ≠ second.path := by
  intro hpath
  obtain h | ⟨-, h, -⟩ | ⟨i, condition, hplace, attr, -, hattr, hi⟩ :=
    exists_finding_iff_fails.1 ⟨first, hfirst, hmisplaced, rfl⟩
  · exact h
  · cases h
  obtain h | ⟨-, h, -⟩ | ⟨j, other, hother, entry, -, htaken, -, hj⟩ :=
    exists_finding_iff_fails.1 ⟨second, hsecond, hinvalid, rfl⟩
  · exact h
  · cases h
  obtain ⟨rfl, rfl⟩ := Finding.attributePath_inj (hi.symm.trans (hpath.trans hj))
  obtain rfl : condition = other := Option.some_inj.1 (hplace.symm.trans hother)
  exact hattr htaken

theorem message_of_invalid {finding : Finding} (h : finding ∈ findings mode header conditions)
    (hcheck : finding.check = .invalidAttributeValue) :
    ∃ (i : Nat) (condition : Condition) (attr : Attribute) (value : String)
      (values : List String),
      conditions[i]? = some condition ∧ (attr, value) ∈ condition.attributes.entries ∧
        finding.path = Finding.attributePath i attr ∧ attr.values? = some values ∧
        finding.message = "<" ++ condition.tag.text ++ "> " ++ attr.text ++ "=\"" ++ value
          ++ "\" is not one of " ++ "|".intercalate values := by
  rcases mem_findings.1 h with ⟨fault, -, rfl⟩ | ⟨-, rfl⟩ | ⟨i, condition, hplace, fault, hf, rfl⟩
  · cases fault <;> cases hcheck
  · cases hcheck
  · cases fault with
    | invalidValue attr value =>
      obtain ⟨hentry, -, hadmits⟩ :=
        Condition.mem_invalidAttributes.1 (Condition.invalidValue_mem_faults.1 hf)
      obtain ⟨values, hvalues, -⟩ := Attribute.rejects_iff.2 hadmits
      refine ⟨i, condition, attr, value, values, hplace, hentry, Finding.path_attribute rfl,
        hvalues, ?_⟩
      rw [Finding.message, ConditionFault.message, hvalues, Option.getD_some]
    | misplacedAttribute attr | markupInValue | markupInAttribute attr | emptyValue => cases hcheck

/-- What can be told of findings by their checks, paths and messages. -/
structure FindingsExact (mode : TextMode) (header : Header) (conditions : List Condition) :
    Prop where
  found : ∀ check path,
    (∃ finding ∈ findings mode header conditions, finding.check = check ∧ finding.path = path) ↔
      Fails mode header conditions check path
  once : ((findings mode header conditions).map fun finding =>
    (finding.check, finding.path)).Nodup
  exclusive : ∀ first ∈ findings mode header conditions,
    ∀ second ∈ findings mode header conditions, first.check = .attributeNotAllowed →
      second.check = .invalidAttributeValue → first.path ≠ second.path
  ordered : (findings mode header conditions).Pairwise fun first second =>
    ∀ i, first.Under i → ∃ j, i ≤ j ∧ second.Under j
  listed : ∀ finding ∈ findings mode header conditions,
    finding.check = .invalidAttributeValue →
      ∃ (i : Nat) (condition : Condition) (attr : Attribute) (value : String)
        (values : List String),
        conditions[i]? = some condition ∧ (attr, value) ∈ condition.attributes.entries ∧
          finding.path = Finding.attributePath i attr ∧ attr.values? = some values ∧
          finding.message = "<" ++ condition.tag.text ++ "> " ++ attr.text ++ "=\"" ++ value
            ++ "\" is not one of " ++ "|".intercalate values

theorem run_findingsExact (edits : List Edit) (mode : TextMode) (header : Header) :
    FindingsExact mode header (Store.empty.run edits).conditions where
  found := fun _ _ => exists_finding_iff_fails
  once := by
    have hdistinct : ∀ condition ∈ (Store.empty.run edits).conditions,
        condition.attributes.keys.Nodup :=
      fun condition hc => (Store.stored_empty.run edits condition hc).distinct
    refine List.pairwise_map.2 ((pairwise_apart hdistinct).imp ?_)
    intro first second hapart hsame
    rw [Prod.mk.injEq] at hsame
    exact hapart hsame.1 hsame.2
  exclusive := fun _ hfirst _ hsecond => path_ne_of_misplaced_of_invalid hfirst hsecond
  ordered := pairwise_under
  listed := fun _ => message_of_invalid

end DetectionRule
