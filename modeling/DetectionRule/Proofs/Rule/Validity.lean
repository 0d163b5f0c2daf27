import DetectionRule.Proofs.Rule.Finding

/-!
# Which rules are valid

What is found in a rule that is going to be escaped is what is found in it verbatim but for the
warnings about markup (`findings_escaped`). Of what is found in a condition only invalid attribute
values are errors, so the errors of a rule are the same in both modes (`errors_findings`). A rule is
valid, in whichever mode it is going to be rendered, when its header is in range and no attribute
that a tag takes has a value that it does not admit. Main statements: `validate_eq_ok_iff`,
`validate_in_either_mode`.
-/

namespace DetectionRule

variable {mode : TextMode} {header : Header} {conditions : List Condition}

namespace Condition

theorem faults_escaped (condition : Condition) :
    condition.faults .escaped
      = (condition.faults .verbatim).filter fun fault => fault.check ≠ .unescapedMarkup := by
  rw [condition.filter_faults .verbatim fun check => check ≠ .unescapedMarkup]
  rfl

theorem findings_escaped (condition : Condition) (i : Nat) :
    condition.findings .escaped i
      = (condition.findings .verbatim i).filter
          fun finding => finding.check ≠ .unescapedMarkup := by
  rw [findings, findings, faults_escaped, List.filter_map]
  rfl

end Condition

theorem findings_escaped (header : Header) (conditions : List Condition) :
    findings .escaped header conditions
      = (findings .verbatim header conditions).filter
          fun finding => finding.check ≠ .unescapedMarkup := by
  have hheader : (header.faults.map Finding.header).filter
        (fun finding => finding.check ≠ .unescapedMarkup) = header.faults.map .header :=
    filter_header_eq_self (fun check => check ≠ .unescapedMarkup)
      fun fault => by cases fault <;> rfl
  have hnone : (if conditions.isEmpty then [Finding.noConditions] else []).filter
        (fun finding => finding.check ≠ .unescapedMarkup)
      = if conditions.isEmpty then [.noConditions] else [] := by
    split <;> rfl
  rw [findings, findings, List.filter_append, List.filter_append, hheader, hnone,
    List.filter_flatMap]
  simp only [Condition.findings_escaped]

namespace Condition

theorem errors_faults (mode : TextMode) (condition : Condition) :
    (condition.faults mode).filter (fun fault => fault.check.severity = .error)
      = condition.invalidAttributes.map fun entry => .invalidValue entry.1 entry.2 := by
  rw [condition.filter_faults mode fun check => check.severity = .error]
  simp [Check.severity]

theorem errors_findings (mode : TextMode) (condition : Condition) (i : Nat) :
    (condition.findings mode i).filter Finding.isError
      = condition.invalidAttributes.map fun entry =>
          .condition i condition.id condition.tag (.invalidValue entry.1 entry.2) := by
  rw [findings, List.filter_map]
  show ((condition.faults mode).filter fun fault => fault.check.severity = .error).map _ = _
  rw [errors_faults, List.map_map]
  rfl

end Condition

/-! ### Errors in a rule -/

theorem errors_findings (mode other : TextMode) (header : Header) (conditions : List Condition) :
    (findings mode header conditions).filter Finding.isError
      = (findings other header conditions).filter Finding.isError := by
  simp only [findings, List.filter_append, List.filter_flatMap, Condition.errors_findings]

theorem validate_eq (mode : TextMode) (header : Header) (conditions : List Condition) :
    validate header conditions =
      if (findings mode header conditions).filter Finding.isError = [] then .ok ()
      else .error ⟨header.id, (findings mode header conditions).filter Finding.isError⟩ := by
  rw [validate, errors_findings .verbatim mode]
  cases (findings mode header conditions).filter Finding.isError <;> rfl

theorem validate_eq_ok_iff_errors (mode : TextMode) :
    validate header conditions = .ok () ↔
      (findings mode header conditions).filter Finding.isError = [] := by
  rw [validate_eq mode]
  by_cases h : (findings mode header conditions).filter Finding.isError = []
  · rw [if_pos h, h]
    exact ⟨fun _ => rfl, fun _ => rfl⟩
  · rw [if_neg h]
    exact ⟨nofun, fun e => absurd e h⟩

theorem validate_eq_error_iff (mode : TextMode) {rejection : Rejection} :
    validate header conditions = .error rejection ↔
      rejection.ruleId = header.id ∧ rejection.findings ≠ [] ∧
        rejection.findings = (findings mode header conditions).filter Finding.isError := by
  rw [validate_eq mode]
  by_cases h : (findings mode header conditions).filter Finding.isError = []
  · rw [if_pos h, h]
    exact ⟨nofun, fun ⟨_, hne, hnil⟩ => absurd hnil hne⟩
  · rw [if_neg h, Except.error.injEq]
    constructor
    · rintro rfl
      exact ⟨rfl, h, rfl⟩
    · rintro ⟨hid, -, hfindings⟩
      rw [← hid, ← hfindings]

theorem validate_in_either_mode (header : Header) (conditions : List Condition) :
    findings .escaped header conditions =
        (findings .verbatim header conditions).filter
          (fun finding => finding.check ≠ .unescapedMarkup) ∧
      ∀ mode,
        (validate header conditions = .ok () ↔
          ∀ finding ∈ findings mode header conditions, finding.severity ≠ .error) ∧
        ∀ rejection, validate header conditions = .error rejection ↔
          rejection.ruleId = header.id ∧ rejection.findings ≠ [] ∧
            rejection.findings =
              (findings mode header conditions).filter
                fun finding => finding.severity = .error := by
  refine ⟨findings_escaped header conditions, fun mode => ⟨?_, ?_⟩⟩
  · rw [validate_eq_ok_iff_errors mode, List.filter_eq_nil_iff]
    simp only [Finding.isError, decide_eq_true_eq, ne_eq]
  · exact fun rejection => validate_eq_error_iff mode

structure Header.InRange (header : Header) : Prop where
  id : 0 < header.id
  level : 0 ≤ header.level ∧ header.level ≤ 16
  frequency : header.frequency ≠ some 0
  timeframe : header.timeframe ≠ some 0

instance (header : Header) : Decidable header.InRange :=
  decidable_of_iff (0 < header.id ∧ (0 ≤ header.level ∧ header.level ≤ 16) ∧
      header.frequency ≠ some 0 ∧ header.timeframe ≠ some 0)
    ⟨fun ⟨hi, hl, hf, ht⟩ => ⟨hi, hl, hf, ht⟩, fun h => ⟨h.id, h.level, h.frequency, h.timeframe⟩⟩

theorem filter_ite_singleton_eq_nil_iff {α : Type} {p : Prop} [Decidable p] {test : α → Bool}
    {a : α} (h : test a = true) : (if p then [a] else []).filter test = [] ↔ ¬p := by
  by_cases hp : p
  · simp [hp, h]
  · simp [hp]

/-- A count without the other is not an error. -/
theorem Header.errors_faults_eq_nil_iff :
    (header.faults.filter fun fault => fault.check.severity = .error) = [] ↔ header.InRange := by
  have hlone : header.loneCount.filter (fun fault => fault.check.severity = .error) = [] := by
    unfold loneCount
    split <;> rfl
  rw [faults, List.filter_append, List.filter_append, List.filter_append, List.filter_append, hlone,
    List.append_nil, List.append_eq_nil_iff, List.append_eq_nil_iff, List.append_eq_nil_iff,
    filter_ite_singleton_eq_nil_iff rfl, filter_ite_singleton_eq_nil_iff rfl,
    filter_ite_singleton_eq_nil_iff rfl, filter_ite_singleton_eq_nil_iff rfl]
  simp only [minLevel, maxLevel]
  constructor
  · rintro ⟨⟨⟨hid, hlevel⟩, hfrequency⟩, htimeframe⟩
    exact ⟨by omega, by omega, hfrequency, htimeframe⟩
  · rintro ⟨hid, hlevel, hfrequency, htimeframe⟩
    exact ⟨⟨⟨by omega, by omega⟩, hfrequency⟩, htimeframe⟩

theorem validate_eq_ok_iff :
    validate header conditions = .ok () ↔
      header.InRange ∧ ∀ condition ∈ conditions, condition.invalidAttributes = [] := by
  rw [validate_eq_ok_iff_errors .verbatim, ← Header.errors_faults_eq_nil_iff]
  have hheader : (header.faults.map Finding.header).filter Finding.isError
      = (header.faults.filter fun fault => fault.check.severity = .error).map .header := by
    rw [List.filter_map]
    rfl
  have hnone : (if conditions.isEmpty then [Finding.noConditions] else []).filter Finding.isError
      = [] := by
    split <;> rfl
  simp only [findings, List.filter_append, hheader, hnone, List.append_nil, List.append_eq_nil_iff,
    List.map_eq_nil_iff, List.filter_flatMap, Condition.errors_findings, List.flatMap_eq_nil_iff]
  refine and_congr_right fun _ => ⟨?_, ?_⟩
  · intro h condition hc
    obtain ⟨i, hplace⟩ := List.mem_iff_getElem?.1 hc
    exact h (condition, i) (List.mem_zipIdx_iff_getElem?.2 hplace)
  · rintro h ⟨condition, i⟩ hplace
    exact h condition (List.mem_of_getElem? (List.mem_zipIdx_iff_getElem?.1 hplace))

end DetectionRule
