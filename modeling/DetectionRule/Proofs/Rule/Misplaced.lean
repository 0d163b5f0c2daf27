import DetectionRule.Proofs.Condition.LastGiven
import DetectionRule.Proofs.Rule.Decoding
import DetectionRule.Proofs.Rule.Exactness
import DetectionRule.Proofs.Rule.Modes

/-!
# What becomes of misplaced attributes

A finding about an attribute that the tag does not take says whether the rendered rule has it. The
finding looks at the tag alone, while rendering leaves out empty values as well; the two agree
because no attribute is ever stored with one. So a condition is rendered with all its attributes or
with none, and each one that is left out has a finding that says so. Main statement:
`run_accounted`.
-/

namespace DetectionRule

namespace Finding

def misplacedMessage (tag : Tag) (attr : Attribute) (fate : String) : String :=
  "<" ++ tag.text ++ "> does not take a '" ++ attr.text ++ "' attribute; it will be " ++ fate

/-- The finding says that the tag of the condition does not take the attribute. -/
def Misplaces (finding : Finding) (i : Nat) (attr : Attribute) : Prop :=
  finding.check = .attributeNotAllowed ∧ finding.path = attributePath i attr

end Finding

/-- Where the attributes of the conditions are in the rendered rule, and what findings say of it. -/
structure Accounted (mode : TextMode) (header : Header) (conditions : List Condition) : Prop where
  rendered : render mode header conditions = header.render ++ "\n"
    ++ "\n".intercalate (conditions.map fun condition => condition.line mode) ++ "\n</rule>"
  line : ∀ condition ∈ conditions, condition.line mode = "    <" ++ condition.tag.text
    ++ String.join ((condition.written mode).map fun entry =>
        " " ++ entry.1.text ++ "=\"" ++ entry.2 ++ "\"")
    ++ ">" ++ mode.text condition.value ++ "</" ++ condition.tag.text ++ ">"
  bare : ∀ condition ∈ conditions, condition.written mode = [] ↔
    ("    <" ++ condition.tag.text ++ ">").toList <+: (condition.line mode).toList
  names : ∀ condition ∈ conditions, (condition.written mode).map Prod.fst =
    if condition.tag.form = .contentOnly then [] else condition.attributes.keys
  told : ∀ finding ∈ findings mode header conditions, ∀ i attr, finding.Misplaces i attr →
    ∃ condition value, conditions[i]? = some condition ∧
      condition.attributes.get? attr = some value ∧
      (finding.message = Finding.misplacedMessage condition.tag attr "dropped" ↔
        condition.written mode = []) ∧
      (finding.message = Finding.misplacedMessage condition.tag attr "emitted anyway" ↔
        (condition.written mode).filter (fun entry => entry.1 = attr) = [(attr, mode.text value)])
  missing : ∀ i condition, conditions[i]? = some condition → ∀ attr ∈ condition.attributes.keys,
    attr ∉ (condition.written mode).map Prod.fst →
      ∃ finding ∈ findings mode header conditions, finding.Misplaces i attr ∧
        finding.message = Finding.misplacedMessage condition.tag attr "dropped"

variable {mode : TextMode} {header : Header} {conditions : List Condition} {condition : Condition}
  {attr : Attribute} {value : String} {finding : Finding} {tag : Tag} {i : Nat}

namespace Condition

/-- The start tag of the line ends behind its name, or a blank and an attribute come next. -/
theorem written_eq_nil_iff : condition.written mode = [] ↔
    ("    <" ++ condition.tag.text ++ ">").toList <+: (condition.line mode).toList := by
  rw [line_eq]
  simp only [String.toList_append, List.append_assoc, List.prefix_append_right_inj]
  cases condition.written mode with
  | nil => simp
  | cons entry entries => simp [String.toList_join]

theorem written_of_wellFormed (h : condition.attributes.WellFormed) (mode : TextMode) :
    condition.written mode = if condition.tag.isContentOnly then [] else
      condition.attributes.entries.map fun entry => (entry.1, mode.text entry.2) := by
  rw [written, Element.ofCondition_eq_view h, Element.shown, view]
  cases condition.tag.isContentOnly <;> rfl

theorem names_written (h : condition.attributes.WellFormed) (mode : TextMode) :
    (condition.written mode).map Prod.fst =
      if condition.tag.isContentOnly then [] else condition.attributes.keys := by
  rw [written_of_wellFormed h]
  cases condition.tag.isContentOnly with
  | true => rfl
  | false => simp [Attributes.keys]

theorem written_eq_nil_iff_isContentOnly (h : condition.attributes.WellFormed)
    (hkey : attr ∈ condition.attributes.keys) :
    condition.written mode = [] ↔ condition.tag.isContentOnly = true := by
  rw [written_of_wellFormed h]
  cases condition.tag.isContentOnly with
  | true => simp
  | false =>
    have hne : condition.attributes.entries ≠ [] := by
      intro hnil
      rw [Attributes.keys, hnil] at hkey
      cases hkey
    simpa using hne

end Condition

theorem filter_fst_eq_singleton {entries : List (Attribute × String)}
    (distinct : (entries.map Prod.fst).Nodup) (h : (attr, value) ∈ entries) :
    entries.filter (fun entry => entry.1 = attr) = [(attr, value)] := by
  induction entries with
  | nil => cases h
  | cons entry entries ih =>
    obtain ⟨hnew, hrest⟩ := List.nodup_cons.1 distinct
    obtain rfl | h := List.mem_cons.1 h
    · have hnone : entries.filter (fun entry => entry.1 = attr) = [] := by
        rw [List.filter_eq_nil_iff]
        intro other hother hkey
        exact hnew (List.mem_map.2 ⟨other, hother, of_decide_eq_true hkey⟩)
      rw [List.filter_cons_of_pos (by simp), hnone]
    · have hne : entry.1 ≠ attr := fun hkey => hnew (List.mem_map.2 ⟨_, h, hkey.symm⟩)
      rw [List.filter_cons_of_neg (by simpa using hne), ih hrest h]

theorem Condition.filter_written_iff (h : condition.attributes.WellFormed)
    (hget : condition.attributes.get? attr = some value) :
    (condition.written mode).filter (fun entry => entry.1 = attr) = [(attr, mode.text value)] ↔
      condition.tag.isContentOnly = false := by
  have hstored : (attr, value) ∈ condition.attributes.entries :=
    (Attributes.lookup_eq_some_iff_mem h.distinct).1 hget
  have hnames := names_written h mode
  have hwritten := written_of_wellFormed h mode
  cases hform : condition.tag.isContentOnly with
  | true =>
    rw [hwritten, hform]
    simp
  | false =>
    rw [hform] at hnames hwritten
    have hthere : (attr, mode.text value) ∈ condition.written mode := by
      rw [hwritten]
      exact List.mem_map.2 ⟨(attr, value), hstored, rfl⟩
    have hdistinct : ((condition.written mode).map Prod.fst).Nodup := by
      rw [hnames]
      exact h.distinct
    simp [filter_fst_eq_singleton hdistinct hthere]

/-! ### Findings -/

theorem Tag.takes_of_isContentOnly (h : tag.isContentOnly = true) (attr : Attribute) :
    tag.takes attr = false := by
  cases tag <;> cases h <;> rfl

namespace Finding

theorem misplacedMessage_inj {fate other : String} :
    misplacedMessage tag attr fate = misplacedMessage tag attr other ↔ fate = other :=
  String.append_right_inj _

theorem message_misplaced {id : Handle} :
    (Finding.condition i id tag (.misplacedAttribute attr)).message
      = misplacedMessage tag attr (ConditionFault.fate tag) :=
  rfl

theorem message_eq_dropped_iff {id : Handle} :
    (Finding.condition i id tag (.misplacedAttribute attr)).message
        = misplacedMessage tag attr "dropped" ↔ tag.isContentOnly = true := by
  rw [message_misplaced, misplacedMessage_inj, ConditionFault.fate]
  cases tag.isContentOnly <;> decide

theorem message_eq_emitted_iff {id : Handle} :
    (Finding.condition i id tag (.misplacedAttribute attr)).message
        = misplacedMessage tag attr "emitted anyway" ↔ tag.isContentOnly = false := by
  rw [message_misplaced, misplacedMessage_inj, ConditionFault.fate]
  cases tag.isContentOnly <;> decide

theorem misplaces_iff : finding.Misplaces i attr ↔
    ∃ id tag, finding = .condition i id tag (.misplacedAttribute attr) := by
  rw [Misplaces, path_eq_attributePath_iff]
  constructor
  · rintro ⟨hcheck, id, tag, fault, rfl, hsteps⟩
    cases fault <;> cases hcheck
    simp only [ConditionFault.steps, List.cons.injEq, and_true, true_and] at hsteps
    obtain rfl := Attribute.text_inj.1 hsteps
    exact ⟨id, tag, rfl⟩
  · rintro ⟨id, tag, rfl⟩
    exact ⟨rfl, id, tag, _, rfl, rfl⟩

end Finding

theorem told_of_misplaces (h : ∀ condition ∈ conditions, condition.attributes.WellFormed)
    (hfinding : finding ∈ findings mode header conditions) (hmisplaces : finding.Misplaces i attr) :
    ∃ condition value, conditions[i]? = some condition ∧
      condition.attributes.get? attr = some value ∧
      (finding.message = Finding.misplacedMessage condition.tag attr "dropped" ↔
        condition.written mode = []) ∧
      (finding.message = Finding.misplacedMessage condition.tag attr "emitted anyway" ↔
        (condition.written mode).filter (fun entry => entry.1 = attr)
          = [(attr, mode.text value)]) := by
  obtain ⟨id, tag, rfl⟩ := Finding.misplaces_iff.1 hmisplaces
  obtain ⟨condition, hplace, rfl, rfl, hfault⟩ := condition_mem_findings.1 hfinding
  have hkey := (Condition.mem_misplaced.1 (Condition.misplacedAttribute_mem_faults.1 hfault)).1
  have hformed := h condition (List.mem_of_getElem? hplace)
  obtain ⟨value, hvalue⟩ := Option.isSome_iff_exists.1 (Attributes.isSome_get?_iff.2 hkey)
  refine ⟨condition, value, hplace, hvalue, ?_, ?_⟩
  · rw [Finding.message_eq_dropped_iff, Condition.written_eq_nil_iff_isContentOnly hformed hkey]
  · rw [Finding.message_eq_emitted_iff, Condition.filter_written_iff hformed hvalue]

theorem misplaces_of_not_written (h : condition.attributes.WellFormed)
    (hplace : conditions[i]? = some condition) (hkey : attr ∈ condition.attributes.keys)
    (hgone : attr ∉ (condition.written mode).map Prod.fst) :
    ∃ finding ∈ findings mode header conditions, finding.Misplaces i attr ∧
      finding.message = Finding.misplacedMessage condition.tag attr "dropped" := by
  have hform : condition.tag.isContentOnly = true := by
    by_contra hroom
    rw [Condition.names_written h, if_neg hroom] at hgone
    exact hgone hkey
  have hfault : .misplacedAttribute attr ∈ condition.faults mode :=
    Condition.misplacedAttribute_mem_faults.2
      (Condition.mem_misplaced.2 ⟨hkey, Tag.takes_of_isContentOnly hform attr⟩)
  exact ⟨.condition i condition.id condition.tag (.misplacedAttribute attr),
    condition_mem_findings.2 ⟨condition, hplace, rfl, rfl, hfault⟩,
    Finding.misplaces_iff.2 ⟨_, _, rfl⟩, Finding.message_eq_dropped_iff.2 hform⟩

theorem run_accounted (edits : List Edit) (mode : TextMode) (header : Header) :
    Accounted mode header (Store.empty.run edits).conditions where
  rendered := rfl
  line := fun condition _ => condition.line_eq mode
  bare := fun _ _ => Condition.written_eq_nil_iff
  names := by
    intro condition hc
    rw [Condition.names_written (Store.stored_empty.run edits condition hc), Tag.isContentOnly]
    simp
  told := fun _ hfinding _ _ => told_of_misplaces (Store.stored_empty.run edits) hfinding
  missing := by
    intro i condition hplace attr
    exact misplaces_of_not_written
      (Store.stored_empty.run edits condition (List.mem_of_getElem? hplace)) hplace

end DetectionRule
