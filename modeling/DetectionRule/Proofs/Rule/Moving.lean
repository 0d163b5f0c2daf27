import DetectionRule.Proofs.Rule.Invariant
import DetectionRule.Proofs.Rule.Place

/-!
# Findings under editing

A list of conditions is cut at a place into what is before it, the condition there, and what is
behind it. The findings elsewhere are those of the header and of the two other parts
(`elsewhere_findings`), so they are the same whatever becomes of the condition; where it is taken
away, those behind it move up by one place. Main statement: `run_findingsFollow`.
-/

namespace DetectionRule

variable {mode : TextMode} {header : Header} {conditions front rest : List Condition}
  {condition other : Condition} {finding : Finding} {k p : Nat}

namespace Finding

/-- The finding when the condition at the place `p` is no longer there. -/
def lower (p : Nat) : Finding → Finding
  | .condition index id tag fault =>
    .condition (if p < index then index - 1 else index) id tag fault
  | finding => finding

/-- The findings differ in the path alone, and there in the place, by one where it is above `p`. -/
structure Lowered (p : Nat) (old new : Finding) : Prop where
  check : new.check = old.check
  severity : new.severity = old.severity
  message : new.message = old.message
  condition? : new.condition? = old.condition?
  path : ∀ i place, old.path = "/conditions/" ++ Text.Decimal.natural i ++ "/" ++ place →
    new.path = "/conditions/" ++ Text.Decimal.natural (if p < i then i - 1 else i) ++ "/" ++ place
  path_header : (∀ i, ¬old.Under i) → new.path = old.path

theorem lowered_lower (p : Nat) (finding : Finding) : finding.Lowered p (finding.lower p) := by
  cases finding with
  | header fault =>
    exact ⟨rfl, rfl, rfl, rfl, fun i place hpath => absurd (under_iff.1 ⟨place, hpath⟩) nofun,
      fun _ => rfl⟩
  | noConditions =>
    exact ⟨rfl, rfl, rfl, rfl, fun i place hpath => absurd (under_iff.1 ⟨place, hpath⟩) nofun,
      fun _ => rfl⟩
  | condition index id tag fault =>
    refine ⟨rfl, rfl, rfl, rfl, ?_, fun h => absurd (under_iff.2 rfl) (h index)⟩
    intro i place hpath
    obtain rfl : index = i := Option.some_inj.1 (under_iff.1 ⟨place, hpath⟩)
    obtain ⟨same, hsame⟩ := fault.exists_place
    rw [hsame, String.append_right_inj] at hpath
    rw [← hpath]
    exact hsame _ id tag

theorem lower_eq_self (h : ∀ i, finding.index? = some i → i ≤ p) : finding.lower p = finding := by
  cases finding with
  | header fault => rfl
  | noConditions => rfl
  | condition index id tag fault =>
    have hle : ¬p < index := Nat.not_lt.2 (h index rfl)
    rw [lower, if_neg hle]

end Finding

theorem map_lower_findings (h : p ≤ k) :
    (condition.findings mode (k + 1)).map (Finding.lower p) = condition.findings mode k := by
  rw [Condition.findings, Condition.findings, List.map_map]
  apply List.map_congr_left
  intro fault _
  rw [Function.comp_apply, Finding.lower, if_pos (Nat.lt_succ_of_le h), Nat.add_sub_cancel]

theorem map_lower_findingsFrom (h : p ≤ k) :
    (findingsFrom mode (k + 1) conditions).map (Finding.lower p)
      = findingsFrom mode k conditions := by
  induction conditions generalizing k with
  | nil => rfl
  | cons condition conditions ih =>
    rw [findingsFrom_cons, findingsFrom_cons, List.map_append, map_lower_findings h,
      ih (Nat.le_succ_of_le h)]

theorem map_lower_eq_self {findings : List Finding}
    (h : ∀ finding ∈ findings, ∀ i, finding.index? = some i → i ≤ p) :
    findings.map (Finding.lower p) = findings := by
  refine (List.map_congr_left ?_).trans (List.map_id _)
  intro finding hfinding
  exact Finding.lower_eq_self (h finding hfinding)

/-! ### Elsewhere -/

/-- The findings that are not about the condition at the place. -/
def elsewhere (p : Nat) (findings : List Finding) : List Finding :=
  findings.filter fun finding => ¬finding.Under p

theorem elsewhere_append (p : Nat) (findings more : List Finding) :
    elsewhere p (findings ++ more) = elsewhere p findings ++ elsewhere p more :=
  List.filter_append ..

theorem elsewhere_eq_self {findings : List Finding}
    (h : ∀ finding ∈ findings, finding.index? ≠ some p) : elsewhere p findings = findings := by
  apply List.filter_eq_self.2
  intro finding hfinding
  exact decide_eq_true fun hunder => h finding hfinding (Finding.under_iff.1 hunder)

theorem elsewhere_eq_nil {findings : List Finding}
    (h : ∀ finding ∈ findings, finding.index? = some p) : elsewhere p findings = [] := by
  apply List.filter_eq_nil_iff.2
  intro finding hfinding
  simp [Finding.under_iff, h finding hfinding]

theorem elsewhere_findingsFrom (h : p < k ∨ k + conditions.length ≤ p) :
    elsewhere p (findingsFrom mode k conditions) = findingsFrom mode k conditions := by
  apply elsewhere_eq_self
  intro finding hfinding hindex
  obtain ⟨i, hi, hle, hlt⟩ := index?_of_mem_findingsFrom hfinding
  obtain rfl : p = i := Option.some_inj.1 (hindex.symm.trans hi)
  omega

theorem elsewhere_findings :
    elsewhere front.length (findings mode header (front ++ condition :: rest)) =
      header.faults.map .header ++ findingsFrom mode 0 front
        ++ findingsFrom mode (front.length + 1) rest := by
  have hne : front ++ condition :: rest ≠ [] :=
    List.append_ne_nil_of_right_ne_nil _ (List.cons_ne_nil _ _)
  have hheader : elsewhere front.length (header.faults.map .header)
      = header.faults.map .header := by
    apply elsewhere_eq_self
    intro finding hfinding
    rw [index?_of_mem_faults hfinding]
    exact (Option.some_ne_none _).symm
  have hfront : elsewhere front.length (findingsFrom mode 0 front) = findingsFrom mode 0 front :=
    elsewhere_findingsFrom (.inr (Nat.zero_add _).le)
  have hthere : elsewhere front.length (condition.findings mode front.length) = [] :=
    elsewhere_eq_nil fun finding => index?_of_mem_findings
  have hrest : elsewhere front.length (findingsFrom mode (front.length + 1) rest)
      = findingsFrom mode (front.length + 1) rest :=
    elsewhere_findingsFrom (.inl (Nat.lt_succ_self _))
  rw [findings_eq, if_neg hne, List.append_nil, findingsFrom_append, findingsFrom_cons,
    Nat.zero_add, elsewhere_append, elsewhere_append, elsewhere_append, hheader, hfront, hthere,
    hrest, List.nil_append, List.append_assoc]

/-- Whatever becomes of the condition, and whatever it was. -/
theorem elsewhere_findings_congr :
    elsewhere front.length (findings mode header (front ++ condition :: rest))
      = elsewhere front.length (findings mode header (front ++ other :: rest)) := by
  rw [elsewhere_findings, elsewhere_findings]

/-- Where no condition is left, neither is there a finding about one. -/
theorem findings_removed : findings mode header (front ++ rest) =
    (elsewhere front.length (findings mode header (front ++ condition :: rest))).map
        (Finding.lower front.length)
      ++ if front ++ rest = [] then [.noConditions] else [] := by
  have hheader : (header.faults.map Finding.header).map (Finding.lower front.length)
      = header.faults.map .header := by
    apply map_lower_eq_self
    intro finding hfinding i hi
    rw [index?_of_mem_faults hfinding] at hi
    cases hi
  have hfront : (findingsFrom mode 0 front).map (Finding.lower front.length)
      = findingsFrom mode 0 front := by
    apply map_lower_eq_self
    intro finding hfinding i hi
    obtain ⟨j, hj, -, hlt⟩ := index?_of_mem_findingsFrom hfinding
    obtain rfl : i = j := Option.some_inj.1 (hi.symm.trans hj)
    omega
  rw [elsewhere_findings, List.map_append, List.map_append, hheader, hfront,
    map_lower_findingsFrom (Nat.le_refl _), findings_eq, findingsFrom_append, Nat.zero_add]
  by_cases hnone : front ++ rest = []
  · obtain ⟨rfl, rfl⟩ := List.append_eq_nil_iff.1 hnone
    simp [findingsFrom]
  · rw [if_neg hnone, List.append_nil, List.append_nil, List.append_assoc]

theorem findings_added (id : Handle) : findings mode header (conditions ++ [.blank id]) =
    (findings mode header conditions).filter (fun finding => finding.check ≠ .noConditions)
      ++ [.condition conditions.length id .field .emptyValue] := by
  have hne : conditions ++ [Condition.blank id] ≠ [] :=
    List.append_ne_nil_of_right_ne_nil _ (List.cons_ne_nil _ _)
  have hblank : findingsFrom mode conditions.length [.blank id]
      = [.condition conditions.length id .field .emptyValue] := by
    cases mode <;> rfl
  have hheader : (header.faults.map Finding.header).filter
        (fun finding => finding.check ≠ .noConditions) = header.faults.map .header :=
    filter_header_eq_self (fun check => check ≠ .noConditions)
      fun fault => by cases fault <;> rfl
  have hnone : (if conditions = [] then [Finding.noConditions] else []).filter
      (fun finding => finding.check ≠ .noConditions) = [] := by
    split <;> rfl
  have hconditions : (findingsFrom mode 0 conditions).filter
        (fun finding => finding.check ≠ .noConditions) = findingsFrom mode 0 conditions := by
    apply List.filter_eq_self.2
    intro finding hfinding
    obtain ⟨i, hi, -⟩ := index?_of_mem_findingsFrom hfinding
    cases finding with
    | header fault => cases hi
    | noConditions => cases hi
    | condition j id tag fault => cases fault <;> rfl
  rw [findings_eq, findings_eq, if_neg hne, List.append_nil, findingsFrom_append, Nat.zero_add,
    hblank, List.filter_append, List.filter_append, hheader, hnone, hconditions, List.append_nil,
    List.append_assoc]

/-! ### Edits of a store -/

namespace Store

variable {store : Store} {id : Handle} {edits : List Edit}

/-- What becomes of the findings when a condition of the store, at a place `p`, is taken away or
changed, and when a condition is added. -/
structure FindingsFollow (mode : TextMode) (header : Header) (store : Store) : Prop where
  remove : ∀ id p, store.position? id = some p →
    findings mode header (store.remove id).conditions =
      (elsewhere p (findings mode header store.conditions)).map (Finding.lower p)
        ++ if (store.remove id).conditions = [] then [.noConditions] else []
  remove_last : ∀ id p, store.position? id = some p → (store.remove id).conditions = [] →
    ∀ finding ∈ elsewhere p (findings mode header store.conditions),
      ∃ fault ∈ header.faults, finding = .header fault
  lowered : ∀ p (finding : Finding), finding.Lowered p (finding.lower p)
  update : ∀ id p, store.position? id = some p → ∀ patch,
    elsewhere p (findings mode header (store.update id patch).conditions) =
      elsewhere p (findings mode header store.conditions)
  setAttribute : ∀ id p, store.position? id = some p → ∀ attr value,
    elsewhere p (findings mode header (store.setAttribute id attr value).conditions) =
      elsewhere p (findings mode header store.conditions)
  add : ∀ id, ∃ finding, findings mode header (store.add id).conditions =
      (findings mode header store.conditions).filter (fun old => old.check ≠ .noConditions)
        ++ [finding] ∧
    finding.check = .emptyValue ∧ finding.path = Finding.valuePath store.size ∧
    finding.condition? = some id

theorem lt_size_of_position? (h : store.position? id = some p) : p < store.conditions.length :=
  (List.findIdx?_eq_some_iff_getElem.1 h).1

/-- What is before the place and what is behind it is left when the condition there is taken
away. -/
theorem exists_cut_remove (distinct : store.handles.Nodup) (h : store.position? id = some p) :
    ∃ front condition rest, front.length = p ∧ store.conditions = front ++ condition :: rest ∧
      (store.remove id).conditions = front ++ rest := by
  have hp := lt_size_of_position? h
  have hremove := (placesOnce distinct id).remove
  rw [h] at hremove
  refine ⟨store.conditions.take p, store.conditions[p], store.conditions.drop (p + 1), ?_, ?_, ?_⟩
  · rw [List.length_take, Nat.min_eq_left (Nat.le_of_lt hp)]
  · rw [List.getElem_cons_drop, List.take_append_drop]
  · exact hremove.trans (List.eraseIdx_eq_take_drop_succ ..)

/-- The findings elsewhere do not depend on what the condition at a place is. -/
theorem elsewhere_findings_modify (f : Condition → Condition) (hp : p < conditions.length) :
    elsewhere p (findings mode header (conditions.modify p f))
      = elsewhere p (findings mode header conditions) := by
  obtain ⟨front, condition, rest, hcut, rfl, hmodify⟩ := List.exists_of_modify f hp
  rw [hmodify, hcut]
  exact elsewhere_findings_congr

theorem findingsFollow (distinct : store.handles.Nodup) (mode : TextMode) (header : Header) :
    FindingsFollow mode header store where
  remove id p h := by
    obtain ⟨front, condition, rest, rfl, hcut, hremove⟩ := exists_cut_remove distinct h
    rw [hremove, hcut]
    exact findings_removed
  remove_last id p h hnone := by
    obtain ⟨front, condition, rest, rfl, hcut, hremove⟩ := exists_cut_remove distinct h
    obtain ⟨rfl, rfl⟩ := List.append_eq_nil_iff.1 (hremove.symm.trans hnone)
    intro finding hfinding
    rw [hcut, elsewhere_findings] at hfinding
    simpa [findingsFrom, eq_comm] using hfinding
  lowered := Finding.lowered_lower
  update id p h patch := by
    have hupdate := (placesOnce distinct id).update patch
    rw [h] at hupdate
    rw [hupdate]
    exact elsewhere_findings_modify _ (lt_size_of_position? h)
  setAttribute id p h attr value := by
    have hset := (placesOnce distinct id).setAttribute attr value
    rw [h] at hset
    rw [hset]
    exact elsewhere_findings_modify _ (lt_size_of_position? h)
  add id := ⟨_, findings_added id, rfl, rfl, rfl⟩

theorem run_findingsFollow (distinct : (added edits).Nodup) (mode : TextMode) (header : Header) :
    FindingsFollow mode header (empty.run edits) :=
  have h : (empty.run edits).WellFormed :=
    wellFormed_empty.run (fun _ _ => List.not_mem_nil) distinct
  findingsFollow h.distinct mode header

/-- The last of eleven conditions has an attribute that its tag does not take. -/
def elevenConditions : List Edit :=
  (List.range 11).map (fun n => .add ⟨n⟩)
    ++ [.update ⟨10⟩ { value := some "root" }, .setAttribute ⟨10⟩ .negate (some "yes")]

theorem run_findingsFollow_elevenConditions :
    (added elevenConditions).Nodup ∧ (empty.run elevenConditions).position? ⟨2⟩ = some 2 ∧
      FindingsFollow .escaped .default (empty.run elevenConditions) ∧
      ((findings .escaped .default (empty.run elevenConditions).conditions).map
        Finding.path).getLast? = some "/conditions/10/attributes/negate" ∧
      ((findings .escaped .default ((empty.run elevenConditions).remove ⟨2⟩).conditions).map
        Finding.path).getLast? = some "/conditions/9/attributes/negate" :=
  ⟨by decide, by decide, run_findingsFollow (by decide) .escaped .default, by decide, by decide⟩

end Store

end DetectionRule
