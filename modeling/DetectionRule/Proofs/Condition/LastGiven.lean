import DetectionRule.Proofs.Condition.WellFormed

/-!
# What is stored of the values given in turn

Of all the values given for one attribute the last decides: it is stored, or nothing is where it
counts as not given. What was given for other attributes in between makes no difference. Main
statement: `get?_ofList`.
-/

namespace DetectionRule

/-- The last of the values given for the attribute. -/
def lastGiven? (attr : Attribute) (pairs : List (Attribute × String)) : Option String :=
  (pairs.filter fun pair => pair.1 = attr).getLast?.map Prod.snd

/-- A value, unless it is one with which an attribute counts as not given. -/
def kept? (value : String) : Option String := if isUnset (some value) then none else some value

variable {attr other : Attribute} {value : String} {pair : Attribute × String}
  {pairs entries : List (Attribute × String)}

theorem lastGiven?_cons :
    lastGiven? attr (pair :: pairs) =
      (lastGiven? attr pairs).or (if pair.1 = attr then some pair.2 else none) := by
  unfold lastGiven?
  by_cases h : pair.1 = attr
  · rw [List.filter_cons_of_pos (by simp [h]), List.getLast?_cons, if_pos h]
    cases (pairs.filter fun pair => pair.1 = attr).getLast? <;> rfl
  · rw [List.filter_cons_of_neg (by simp [h]), if_neg h, Option.or_none]

namespace Attributes

variable {stored : Attributes}

theorem lookup_putEntry :
    (putEntry attr value entries).lookup other =
      if other = attr then some value else entries.lookup other := by
  induction entries with
  | nil =>
    rw [putEntry, List.lookup_cons]
    by_cases ho : other = attr
    · simp [ho]
    · simp [ho, beq_false_of_ne ho]
  | cons entry entries ih =>
    by_cases he : entry.1 = attr
    · rw [putEntry, if_pos he, List.lookup_cons, List.lookup_cons, he]
      by_cases ho : other = attr
      · simp [ho]
      · simp [ho, beq_false_of_ne ho]
    · rw [putEntry, if_neg he, List.lookup_cons, List.lookup_cons, ih]
      by_cases ho : other = entry.1
      · simp [ho, he]
      · simp [beq_false_of_ne ho]

theorem lookup_eq_none_of_not_mem (h : attr ∉ entries.map Prod.fst) :
    entries.lookup attr = none := by
  rw [List.lookup_eq_none_iff]
  intro entry he
  exact bne_iff_ne.2 fun e => h (e ▸ List.mem_map_of_mem he)

theorem isSome_get?_iff : (stored.get? attr).isSome = true ↔ attr ∈ stored.keys := by
  constructor
  · intro h
    by_contra hm
    rw [get?, lookup_eq_none_of_not_mem hm] at h
    cases h
  · intro hm
    obtain ⟨entry, he, rfl⟩ := List.mem_map.1 hm
    rw [get?, Option.isSome_iff_ne_none]
    intro hnone
    exact absurd (List.lookup_eq_none_iff.1 hnone entry he) (by simp)

theorem lookup_eraseP (distinct : (entries.map Prod.fst).Nodup) :
    (entries.eraseP fun entry => entry.1 = attr).lookup other =
      if other = attr then none else entries.lookup other := by
  induction entries with
  | nil => simp
  | cons entry entries ih =>
    obtain ⟨hnew, hrest⟩ := List.nodup_cons.1 distinct
    by_cases he : entry.1 = attr
    · rw [List.eraseP_cons_of_pos (by simp [he]), List.lookup_cons, he]
      by_cases ho : other = attr
      · rw [if_pos ho, ho]
        exact lookup_eq_none_of_not_mem (he ▸ hnew)
      · simp [ho, beq_false_of_ne ho]
    · rw [List.eraseP_cons_of_neg (by simp [he]), List.lookup_cons, List.lookup_cons, ih hrest]
      by_cases ho : other = entry.1
      · simp [ho, he]
      · simp [beq_false_of_ne ho]

theorem get?_set (h : stored.WellFormed) :
    (stored.set attr (some value)).get? other =
      if other = attr then kept? value else stored.get? other := by
  unfold get? kept?
  by_cases hv : isUnset (some value) = true
  · rw [set, if_pos hv, if_pos hv]
    exact lookup_eraseP h.distinct
  · rw [set, if_neg hv, if_neg hv]
    exact lookup_putEntry

theorem get?_setAll (h : stored.WellFormed) :
    (stored.setAll pairs).get? attr =
      match lastGiven? attr pairs with
      | some value => kept? value
      | none => stored.get? attr := by
  induction pairs generalizing stored with
  | nil => rfl
  | cons pair pairs ih =>
    rw [setAll_cons, ih (h.set _), lastGiven?_cons, get?_set h]
    cases lastGiven? attr pairs with
    | some value => rfl
    | none =>
      by_cases hp : pair.1 = attr
      · simp [hp]
      · simp [hp, Ne.symm hp]

theorem get?_ofList :
    (ofList pairs).get? attr = (lastGiven? attr pairs).bind kept? := by
  rw [ofList, get?_setAll .empty]
  cases lastGiven? attr pairs <;> rfl

end Attributes

end DetectionRule
