import DetectionRule.Proofs.Rule.Finding

/-!
# Findings by place

The findings of a rule are those of its header, then those of each condition in turn. Which
condition a finding is about can be read off its path (`Finding.under_iff`). So a relation holds
between each finding and those after it when it holds in the header, in each condition and between
findings of different places (`pairwise_findings`).
-/

namespace DetectionRule

variable {mode : TextMode} {header : Header} {conditions more : List Condition}
  {condition : Condition} {finding : Finding} {i k : Nat}

namespace Finding

/-- The place of the condition that the finding is about. -/
def index? : Finding → Option Nat
  | .condition index _ _ _ => some index
  | _ => none

/-- The path leads on from the condition at the place. -/
def Under (i : Nat) (finding : Finding) : Prop :=
  ∃ place, finding.path = "/conditions/" ++ Text.Decimal.natural i ++ "/" ++ place

theorem under_iff : finding.Under i ↔ finding.index? = some i := by
  constructor
  · rintro ⟨place, hpath⟩
    obtain ⟨id, tag, fault, rfl⟩ := eq_condition_of_path hpath
    rfl
  · intro h
    cases finding with
    | header fault => cases h
    | noConditions => cases h
    | condition j id tag fault =>
      obtain rfl : j = i := Option.some_inj.1 h
      exact path_condition j id tag fault

instance (i : Nat) (finding : Finding) : Decidable (finding.Under i) :=
  decidable_of_iff (finding.index? = some i) under_iff.symm

theorem path_inj {other : Finding} : finding.path = other.path ↔ finding.steps = other.steps :=
  path_eq_iff other.isPathStep_of_mem_steps

theorem index?_eq_of_path_eq {other : Finding} (h : finding.path = other.path) :
    finding.index? = other.index? := by
  apply Option.ext
  intro i
  rw [← under_iff, ← under_iff, Under, Under, h]

end Finding

/-- What is found in conditions of which the first stands at the place `k`. -/
def findingsFrom (mode : TextMode) (k : Nat) (conditions : List Condition) : List Finding :=
  (conditions.zipIdx k).flatMap fun entry => entry.1.findings mode entry.2

theorem findings_eq : findings mode header conditions =
    header.faults.map .header ++ (if conditions = [] then [.noConditions] else [])
      ++ findingsFrom mode 0 conditions := by
  cases conditions <;> rfl

theorem findingsFrom_cons : findingsFrom mode k (condition :: conditions)
    = condition.findings mode k ++ findingsFrom mode (k + 1) conditions := rfl

theorem findingsFrom_append : findingsFrom mode k (conditions ++ more)
    = findingsFrom mode k conditions ++ findingsFrom mode (k + conditions.length) more := by
  rw [findingsFrom, List.zipIdx_append, List.flatMap_append]
  rfl

theorem index?_of_mem_findings (h : finding ∈ condition.findings mode k) :
    finding.index? = some k := by
  obtain ⟨fault, -, rfl⟩ := List.mem_map.1 h
  rfl

theorem index?_of_mem_findingsFrom (h : finding ∈ findingsFrom mode k conditions) :
    ∃ i, finding.index? = some i ∧ k ≤ i ∧ i < k + conditions.length := by
  obtain ⟨⟨condition, i⟩, hplace, hfinding⟩ := List.mem_flatMap.1 h
  obtain ⟨hle, hlt, -⟩ := List.mem_zipIdx hplace
  exact ⟨i, index?_of_mem_findings hfinding, hle, hlt⟩

theorem index?_of_mem_faults (h : finding ∈ header.faults.map Finding.header) :
    finding.index? = none := by
  obtain ⟨fault, -, rfl⟩ := List.mem_map.1 h
  rfl

section Pairwise

variable {R : Finding → Finding → Prop}

theorem pairwise_findingsFrom
    (within : ∀ condition ∈ conditions, ∀ i, (condition.findings mode i).Pairwise R)
    (between : ∀ first second i j, first.index? = some i → second.index? = some j → i < j →
      R first second) :
    (findingsFrom mode k conditions).Pairwise R := by
  -- By induction on the conditions; what follows the first of them is at later places.
  induction conditions generalizing k with
  | nil => exact List.Pairwise.nil
  | cons condition conditions ih =>
    rw [findingsFrom_cons, List.pairwise_append]
    refine ⟨within condition List.mem_cons_self k,
      ih fun other ho => within other (List.mem_cons_of_mem _ ho), ?_⟩
    intro first hfirst second hsecond
    obtain ⟨j, hj, hle, -⟩ := index?_of_mem_findingsFrom hsecond
    exact between first second k j (index?_of_mem_findings hfirst) hj (by omega)

theorem pairwise_findings (inHeader : (header.faults.map Finding.header).Pairwise R)
    (noConditions : ∀ fault, R (.header fault) .noConditions)
    (headerFirst : ∀ first second j, first.index? = none → second.index? = some j →
      R first second)
    (within : ∀ condition ∈ conditions, ∀ i, (condition.findings mode i).Pairwise R)
    (between : ∀ first second i j, first.index? = some i → second.index? = some j → i < j →
      R first second) :
    (findings mode header conditions).Pairwise R := by
  have hfront : (header.faults.map Finding.header ++
      if conditions = [] then [Finding.noConditions] else []).Pairwise R := by
    split
    · refine List.pairwise_append.2 ⟨inHeader, List.pairwise_singleton .., ?_⟩
      intro first hfirst second hsecond
      obtain ⟨fault, -, rfl⟩ := List.mem_map.1 hfirst
      rw [List.mem_singleton.1 hsecond]
      exact noConditions fault
    · rw [List.append_nil]
      exact inHeader
  rw [findings_eq, List.pairwise_append]
  refine ⟨hfront, pairwise_findingsFrom within between, ?_⟩
  intro first hfirst second hsecond
  obtain ⟨j, hj, -, -⟩ := index?_of_mem_findingsFrom hsecond
  refine headerFirst first second j ?_ hj
  rcases List.mem_append.1 hfirst with hfirst | hfirst
  · exact index?_of_mem_faults hfirst
  · split at hfirst
    · rw [List.mem_singleton.1 hfirst]
      rfl
    · cases hfirst

end Pairwise

end DetectionRule
