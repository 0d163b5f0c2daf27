import DetectionRule.Proofs.Rule.Finding
import DetectionRule.Proofs.Rule.Invariant
import DetectionRule.Proofs.Rule.Modes

/-!
# Warnings about markup and the two renderings

A warning about markup stands where the two renderings of a rule differ and nowhere else: at the
value of a condition, or at an attribute that its element is rendered with. So there is one at all
only where the rendered rules differ. The texts that are compared are those in the lines of the rule
(`ShownInLines`). Main statement: `unescapedMarkup_exact`.
-/

namespace DetectionRule

open Markup

variable {mode : TextMode} {header : Header} {conditions : List Condition} {condition : Condition}
  {attr : Attribute} {value : String} {finding : Finding} {i : Nat}

namespace Element

theorem mem_attributes_ofCondition :
    (attr, value) ∈ (ofCondition condition).attributes ↔
      (attr, value) ∈ condition.attributes.entries ∧ condition.tag.isContentOnly = false ∧
        value ≠ "" := by
  unfold ofCondition
  cases condition.tag.isContentOnly <;> simp

theorem ne_empty_of_occursIn (h : occursIn value = true) : value ≠ "" := by
  rintro rfl
  cases h

theorem nodup_keys_ofCondition (h : condition.attributes.keys.Nodup) :
    ((ofCondition condition).attributes.map Prod.fst).Nodup := by
  unfold ofCondition
  cases condition.tag.isContentOnly with
  | true => exact List.nodup_nil
  | false => exact h.sublist (List.filter_sublist.map _)

theorem shown_value_ne_iff (element : Element) :
    (element.shown .verbatim).value ≠ (element.shown .escaped).value ↔
      occursIn element.value = true := by
  rw [ne_eq, ← Bool.not_eq_false]
  exact not_congr TextMode.verbatim_eq_escaped_iff

theorem lookup_shown_ne_iff {element : Element}
    (distinct : (element.attributes.map Prod.fst).Nodup) :
    (element.shown .verbatim).attributes.lookup attr
        ≠ (element.shown .escaped).attributes.lookup attr ↔
      ∃ value, (attr, value) ∈ element.attributes ∧ occursIn value = true := by
  rw [lookup_shown, lookup_shown]
  constructor
  · intro h
    cases hl : element.attributes.lookup attr with
    | none =>
      rw [hl] at h
      exact absurd rfl h
    | some value =>
      rw [hl] at h
      refine ⟨value, (Attributes.lookup_eq_some_iff_mem distinct).1 hl, ?_⟩
      rw [← Bool.not_eq_false]
      exact fun hfree => h (congrArg some (TextMode.verbatim_eq_escaped_iff.2 hfree))
  · rintro ⟨value, hstored, hmarkup⟩ h
    rw [(Attributes.lookup_eq_some_iff_mem distinct).2 hstored, Option.map_some, Option.map_some,
      Option.some_inj, TextMode.verbatim_eq_escaped_iff, hmarkup] at h
    cases h

end Element

/-- The content of the `i`-th element in the rendered rule. -/
def shownValue? (mode : TextMode) (conditions : List Condition) (i : Nat) : Option String :=
  conditions[i]?.map fun condition => ((Element.ofCondition condition).shown mode).value

/-- The text of an attribute that the `i`-th element is rendered with. -/
def shownText? (mode : TextMode) (conditions : List Condition) (i : Nat) (attr : Attribute) :
    Option String :=
  conditions[i]?.bind fun condition =>
    ((Element.ofCondition condition).shown mode).attributes.lookup attr

/-- The texts of the two look-ups are those that stand in the lines of the rendered rule. -/
structure ShownInLines (mode : TextMode) (header : Header) (conditions : List Condition) :
    Prop where
  rendered : render mode header conditions = header.render ++ "\n"
    ++ "\n".intercalate (conditions.map fun condition => condition.line mode) ++ "\n</rule>"
  line : ∀ i condition, conditions[i]? = some condition →
    ∃ content, shownValue? mode conditions i = some content ∧
      condition.line mode = "    <" ++ condition.tag.text
        ++ String.join ((condition.written mode).map fun entry =>
            " " ++ entry.1.text ++ "=\"" ++ entry.2 ++ "\"")
        ++ ">" ++ content ++ "</" ++ condition.tag.text ++ ">"
  text : ∀ i condition attr, conditions[i]? = some condition →
    shownText? mode conditions i attr = (condition.written mode).lookup attr

theorem shownInLines (mode : TextMode) (header : Header) (conditions : List Condition) :
    ShownInLines mode header conditions where
  rendered := rfl
  line := by
    intro i condition hplace
    refine ⟨mode.text condition.value, ?_, condition.line_eq mode⟩
    rw [shownValue?, hplace]
    rfl
  text := by
    intro i condition attr hplace
    rw [shownText?, hplace]
    rfl

theorem shownValue?_ne_iff :
    shownValue? .verbatim conditions i ≠ shownValue? .escaped conditions i ↔
      ∃ condition, conditions[i]? = some condition ∧ occursIn condition.value = true := by
  unfold shownValue?
  cases hc : conditions[i]? with
  | none => simp
  | some condition =>
    rw [Option.map_some, Option.map_some, ne_eq, Option.some_inj, ← ne_eq,
      Element.shown_value_ne_iff]
    simp [Element.ofCondition]

theorem shownText?_ne_iff (distinct : ∀ condition ∈ conditions, condition.attributes.keys.Nodup) :
    shownText? .verbatim conditions i attr ≠ shownText? .escaped conditions i attr ↔
      ∃ condition, conditions[i]? = some condition ∧
        ∃ value, (attr, value) ∈ condition.attributes.entries ∧
          condition.tag.isContentOnly = false ∧ occursIn value = true := by
  unfold shownText?
  cases hc : conditions[i]? with
  | none => simp
  | some condition =>
    have hkeys := Element.nodup_keys_ofCondition
      (distinct condition (List.mem_of_getElem? hc))
    rw [Option.bind_some, Option.bind_some, Element.lookup_shown_ne_iff hkeys]
    simp only [Option.some_inj, exists_eq_left', Element.mem_attributes_ofCondition]
    refine exists_congr fun value => ⟨?_, ?_⟩
    · rintro ⟨⟨hstored, hform, -⟩, hmarkup⟩
      exact ⟨hstored, hform, hmarkup⟩
    · rintro ⟨hstored, hform, hmarkup⟩
      exact ⟨⟨hstored, hform, Element.ne_empty_of_occursIn hmarkup⟩, hmarkup⟩

/-! ### Where there are warnings -/

theorem ConditionFault.check_eq_unescapedMarkup_iff {fault : ConditionFault} :
    fault.check = .unescapedMarkup ↔
      fault = .markupInValue ∨ ∃ attr, fault = .markupInAttribute attr := by
  cases fault <;> simp [check]

theorem exists_fault_of_check (h : finding ∈ findings mode header conditions)
    (hcheck : finding.check = .unescapedMarkup) :
    ∃ (i : Nat) (condition : Condition), conditions[i]? = some condition ∧
      ∃ fault ∈ condition.faults mode, fault.check = .unescapedMarkup := by
  rcases mem_findings.1 h with ⟨fault, -, rfl⟩ | ⟨-, rfl⟩ | ⟨i, condition, hplace, fault, hf, rfl⟩
  · cases fault <;> cases hcheck
  · cases hcheck
  · exact ⟨i, condition, hplace, fault, hf, hcheck⟩

theorem exists_warning_at_value_iff :
    (∃ finding ∈ findings .verbatim header conditions,
        finding.check = .unescapedMarkup ∧ finding.path = Finding.valuePath i) ↔
      ∃ condition, conditions[i]? = some condition ∧ occursIn condition.value = true := by
  have hfault : ∀ fault : ConditionFault,
      fault.check = .unescapedMarkup ∧ fault.steps = ["value"] ↔ fault = .markupInValue := by
    intro fault
    cases fault <;> simp [ConditionFault.check, ConditionFault.steps]
  rw [exists_finding_iff fun _ => Finding.path_eq_valuePath_iff]
  simp only [hfault, exists_eq_right, Condition.markupInValue_mem_faults, true_and]

theorem exists_warning_at_attribute_iff :
    (∃ finding ∈ findings .verbatim header conditions,
        finding.check = .unescapedMarkup ∧ finding.path = Finding.attributePath i attr) ↔
      ∃ condition, conditions[i]? = some condition ∧
        ∃ value, (attr, value) ∈ condition.attributes.entries ∧
          condition.tag.isContentOnly = false ∧ occursIn value = true := by
  have hfault : ∀ fault : ConditionFault,
      fault.check = .unescapedMarkup ∧ fault.steps = ["attributes", attr.text] ↔
        fault = .markupInAttribute attr := by
    intro fault
    cases fault <;> simp [ConditionFault.check, ConditionFault.steps, Attribute.text_inj]
  rw [exists_finding_iff fun _ => Finding.path_eq_attributePath_iff]
  simp only [hfault, exists_eq_right, Condition.markupInAttribute_mem_faults, true_and]

theorem no_warning_escaped (h : finding ∈ findings .escaped header conditions) :
    finding.check ≠ .unescapedMarkup := by
  intro hcheck
  obtain ⟨i, condition, -, fault, hfault, hmarkup⟩ := exists_fault_of_check h hcheck
  rcases ConditionFault.check_eq_unescapedMarkup_iff.1 hmarkup with rfl | ⟨attr, rfl⟩
  · cases (Condition.markupInValue_mem_faults.1 hfault).1
  · cases (Condition.markupInAttribute_mem_faults.1 hfault).1

/-- Each warning stands at one of the two kinds of place, so that without any no text differs. -/
theorem no_warning_iff :
    (∀ finding ∈ findings .verbatim header conditions, finding.check ≠ .unescapedMarkup) ↔
      ∀ condition ∈ conditions, occursIn (Element.ofCondition condition).value = false ∧
        ∀ entry ∈ (Element.ofCondition condition).attributes, occursIn entry.2 = false := by
  constructor
  · intro h condition hc
    obtain ⟨i, hplace⟩ := List.getElem?_of_mem hc
    constructor
    · rw [← Bool.not_eq_true]
      intro hmarkup
      obtain ⟨finding, hfinding, hcheck, -⟩ :=
        exists_warning_at_value_iff.2 ⟨condition, hplace, hmarkup⟩
      exact h finding hfinding hcheck
    · rintro ⟨attr, value⟩ hentry
      rw [← Bool.not_eq_true]
      intro hmarkup
      obtain ⟨hstored, hform, -⟩ := Element.mem_attributes_ofCondition.1 hentry
      obtain ⟨finding, hfinding, hcheck, -⟩ :=
        exists_warning_at_attribute_iff.2 ⟨condition, hplace, value, hstored, hform, hmarkup⟩
      exact h finding hfinding hcheck
  · intro h finding hfinding hcheck
    obtain ⟨i, condition, hplace, fault, hfault, hmarkup⟩ := exists_fault_of_check hfinding hcheck
    obtain ⟨hvalue, hattributes⟩ := h condition (List.mem_of_getElem? hplace)
    rcases ConditionFault.check_eq_unescapedMarkup_iff.1 hmarkup with rfl | ⟨attr, rfl⟩
    · have hoccurs : occursIn condition.value = true :=
        (Condition.markupInValue_mem_faults.1 hfault).2
      exact absurd hvalue (Bool.not_eq_false _ ▸ hoccurs)
    · obtain ⟨-, value, hstored, hform, hoccurs⟩ :=
        Condition.markupInAttribute_mem_faults.1 hfault
      have hshown := Element.mem_attributes_ofCondition.2
        ⟨hstored, hform, Element.ne_empty_of_occursIn hoccurs⟩
      exact absurd (hattributes _ hshown) (Bool.not_eq_false _ ▸ hoccurs)

theorem unescapedMarkup_exact (header : Header) (edits : List Edit) :
    (render .verbatim header (Store.empty.run edits).conditions
          = render .escaped header (Store.empty.run edits).conditions ↔
        ∀ finding ∈ findings .verbatim header (Store.empty.run edits).conditions,
          finding.check ≠ .unescapedMarkup) ∧
      (∀ i,
        (∃ finding ∈ findings .verbatim header (Store.empty.run edits).conditions,
            finding.check = .unescapedMarkup ∧ finding.path = Finding.valuePath i) ↔
          shownValue? .verbatim (Store.empty.run edits).conditions i
            ≠ shownValue? .escaped (Store.empty.run edits).conditions i) ∧
      (∀ i attr,
        (∃ finding ∈ findings .verbatim header (Store.empty.run edits).conditions,
            finding.check = .unescapedMarkup ∧ finding.path = Finding.attributePath i attr) ↔
          shownText? .verbatim (Store.empty.run edits).conditions i attr
            ≠ shownText? .escaped (Store.empty.run edits).conditions i attr) ∧
      (∀ finding ∈ findings .escaped header (Store.empty.run edits).conditions,
        finding.check ≠ .unescapedMarkup) ∧
      ∀ mode, ShownInLines mode header (Store.empty.run edits).conditions := by
  have hdistinct : ∀ condition ∈ (Store.empty.run edits).conditions,
      condition.attributes.keys.Nodup :=
    fun condition hc => (Store.stored_empty.run edits condition hc).distinct
  refine ⟨render_verbatim_eq_escaped_iff.trans no_warning_iff.symm, ?_, ?_, ?_, ?_⟩
  · intro i
    exact exists_warning_at_value_iff.trans shownValue?_ne_iff.symm
  · intro i attr
    exact exists_warning_at_attribute_iff.trans (shownText?_ne_iff hdistinct).symm
  · exact fun finding => no_warning_escaped
  · exact fun mode => shownInLines mode header _

end DetectionRule
