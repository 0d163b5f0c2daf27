import DetectionRule.Proofs.Condition.Writes

/-!
# Merging stored attributes

Stored attributes with distinct keys are told by two views: the keys in their order and the value
under each (`ext_of_get?`). A merge adds the keys that are new behind the old ones, and under each
key the second value counts where there is one. Read through the two views, merging is the operation
of a monoid whose neutral element is the empty attributes, and to merge in the same attributes again
changes nothing. All this holds of attributes that operations can build, which are the well-formed
ones (`reachable_iff_wellFormed`). Main statement: `merge_monoid`.
-/

namespace DetectionRule.Attributes

variable {stored a b c : Attributes} {attr : Attribute} {value : String}
  {pairs : List (Attribute × String)}

def Reachable (stored : Attributes) : Prop := ∃ operations, run operations = stored

theorem WellFormed.merge (h : stored.WellFormed) (other : Attributes) :
    (stored.merge other).WellFormed :=
  h.setAll other.entries

theorem WellFormed.apply (h : stored.WellFormed) (operation : Operation) :
    (stored.apply operation).WellFormed := by
  cases operation with
  | set attr value => exact h.set value
  | remove attr => exact h.erase
  | merge other => exact h.merge other
  | clear => exact .empty

theorem wellFormed_run (operations : List Operation) : (run operations).WellFormed := by
  induction operations using List.reverseRecOn with
  | nil => exact .empty
  | append_singleton operations operation ih =>
    rw [run, List.foldl_append]
    exact ih.apply operation

/-- Well-formed attributes are what the empty ones become by merging them in. -/
theorem reachable_iff_wellFormed : stored.Reachable ↔ stored.WellFormed := by
  constructor
  · rintro ⟨operations, rfl⟩
    exact wellFormed_run operations
  · intro h
    exact ⟨[.merge stored], h.ofList_entries⟩

theorem get?_of_mem (distinct : stored.keys.Nodup) {entry : Attribute × String}
    (h : entry ∈ stored.entries) : stored.get? entry.1 = some entry.2 :=
  (lookup_eq_some_iff_mem distinct).2 h

theorem entries_eq_map (distinct : stored.keys.Nodup) :
    stored.entries = stored.keys.map fun attr => (attr, (stored.get? attr).getD "") := by
  rw [keys, List.map_map]
  refine (List.map_id _).symm.trans (List.map_congr_left ?_)
  intro entry he
  simp [get?_of_mem distinct he]

theorem ext_of_get? (ha : a.keys.Nodup) (hb : b.keys.Nodup) (hkeys : a.keys = b.keys)
    (hget : ∀ attr, a.get? attr = b.get? attr) : a = b := by
  have hentries : a.entries = b.entries := by
    rw [entries_eq_map ha, entries_eq_map hb, hkeys, funext hget]
  cases a
  cases b
  exact congrArg mk hentries

theorem keys_set_of_given (hv : isUnset (some value) = false) :
    (stored.set attr (some value)).keys =
      if attr ∈ stored.keys then stored.keys else stored.keys ++ [attr] := by
  rw [set, if_neg (Bool.eq_false_iff.1 hv)]
  split
  · next hm => exact keys_put_of_mem hm
  · next hm => exact keys_put_of_not_mem hm

theorem keys_setAll_of_given (distinct : (pairs.map Prod.fst).Nodup)
    (given : ∀ pair ∈ pairs, isUnset (some pair.2) = false) :
    (stored.setAll pairs).keys =
      stored.keys ++ (pairs.map Prod.fst).filter fun attr => attr ∉ stored.keys := by
  induction pairs generalizing stored with
  | nil => simp
  | cons pair pairs ih =>
    obtain ⟨hnew, hrest⟩ := List.nodup_cons.1 distinct
    rw [setAll_cons, ih hrest fun other ho => given other (List.mem_cons_of_mem _ ho),
      keys_set_of_given (given pair List.mem_cons_self), List.map_cons]
    by_cases hm : pair.1 ∈ stored.keys
    · rw [if_pos hm, List.filter_cons_of_neg (by simpa using hm)]
    · have hothers : ((pairs.map Prod.fst).filter fun attr => attr ∉ stored.keys ++ [pair.1])
          = (pairs.map Prod.fst).filter fun attr => attr ∉ stored.keys := by
        apply List.filter_congr
        intro attr ha
        have hne : attr ≠ pair.1 := fun e => hnew (e ▸ ha)
        simp [hne]
      rw [if_neg hm, List.filter_cons_of_pos (by simpa using hm), hothers, List.append_assoc,
        List.singleton_append]

theorem keys_merge (hb : b.WellFormed) :
    (a.merge b).keys = a.keys ++ b.keys.filter fun attr => attr ∉ a.keys :=
  keys_setAll_of_given hb.distinct hb.given

theorem lastGiven?_eq_lookup (distinct : (pairs.map Prod.fst).Nodup) :
    lastGiven? attr pairs = pairs.lookup attr := by
  induction pairs with
  | nil => rfl
  | cons pair pairs ih =>
    obtain ⟨hnew, hrest⟩ := List.nodup_cons.1 distinct
    rw [lastGiven?_cons, ih hrest, List.lookup_cons]
    by_cases hp : pair.1 = attr
    · rw [lookup_eq_none_of_not_mem (hp ▸ hnew)]
      simp [hp]
    · simp [hp, beq_false_of_ne (Ne.symm hp)]

theorem get?_merge (ha : a.WellFormed) (hb : b.WellFormed) :
    (a.merge b).get? attr = (b.get? attr).or (a.get? attr) := by
  have hlast : lastGiven? attr b.entries = b.get? attr := lastGiven?_eq_lookup hb.distinct
  rw [merge, get?_setAll ha, hlast]
  cases hget : b.get? attr with
  | none => rfl
  | some value =>
    have hgiven := hb.given _ ((lookup_eq_some_iff_mem hb.distinct).1 hget)
    show kept? value = some value
    rw [kept?, hgiven]
    rfl

/-! ### Laws -/

theorem entries_merge (ha : a.WellFormed) (hb : b.WellFormed) :
    (a.merge b).entries =
      (a.entries.map fun entry => (entry.1, (b.get? entry.1).getD entry.2)) ++
        b.entries.filter fun entry => entry.1 ∉ a.keys := by
  rw [entries_eq_map (ha.merge b).distinct, keys_merge hb, List.map_append]
  congr 1
  · rw [keys, List.map_map]
    apply List.map_congr_left
    intro entry he
    have hold := get?_of_mem ha.distinct he
    simp only [Function.comp_apply, get?_merge ha hb, hold]
    cases b.get? entry.1 <;> rfl
  · have hkeys : b.keys = b.entries.map Prod.fst := rfl
    rw [hkeys, List.filter_map, List.map_map]
    refine (List.map_congr_left ?_).trans (List.map_id _)
    intro entry he
    have hnew := get?_of_mem hb.distinct (List.mem_of_mem_filter he)
    simp [get?_merge ha hb, hnew]

theorem mem_keys_merge (hb : b.WellFormed) :
    attr ∈ (a.merge b).keys ↔ attr ∈ a.keys ∨ attr ∈ b.keys := by
  rw [keys_merge hb, List.mem_append, List.mem_filter, decide_eq_true_eq]
  by_cases hm : attr ∈ a.keys <;> simp [hm]

theorem merge_assoc (ha : a.WellFormed) (hb : b.WellFormed) (hc : c.WellFormed) :
    (a.merge b).merge c = a.merge (b.merge c) := by
  refine ext_of_get? ((ha.merge b).merge c).distinct (ha.merge (b.merge c)).distinct ?_ ?_
  · rw [keys_merge hc, keys_merge hb, keys_merge (hb.merge c), keys_merge hc, List.append_assoc,
      List.filter_append, List.filter_filter]
    congr 2
    apply List.filter_congr
    intro attr _
    by_cases hm : attr ∈ a.keys <;> simp [hm]
  · intro attr
    rw [get?_merge (ha.merge b) hc, get?_merge ha hb, get?_merge ha (hb.merge c),
      get?_merge hb hc, Option.or_assoc]

theorem empty_merge (ha : a.WellFormed) : empty.merge a = a := ha.ofList_entries

/-- Entries that no operation stores are not kept by a merge. -/
example : empty.merge ⟨[(.negate, "no"), (.type, "pcre2"), (.type, "sregex")]⟩
    = ⟨[(.type, "sregex")]⟩ := by
  decide

theorem merge_empty (a : Attributes) : a.merge empty = a := rfl

theorem merge_merge_self (ha : a.WellFormed) (hb : b.WellFormed) :
    (a.merge b).merge b = a.merge b := by
  refine ext_of_get? ((ha.merge b).merge b).distinct (ha.merge b).distinct ?_ ?_
  · have hnone : (b.keys.filter fun attr => attr ∉ (a.merge b).keys) = [] := by
      apply List.filter_eq_nil_iff.2
      intro attr hm
      simp [mem_keys_merge hb, hm]
    rw [keys_merge hb, hnone, List.append_nil]
  · intro attr
    rw [get?_merge (ha.merge b) hb, get?_merge ha hb, ← Option.or_assoc, Option.or_self]

theorem merge_monoid (ha : a.Reachable) (hb : b.Reachable) (hc : c.Reachable) :
    (a.merge b).entries =
        ((a.entries.map fun entry => (entry.1, (b.get? entry.1).getD entry.2)) ++
          b.entries.filter fun entry => entry.1 ∉ a.keys) ∧
      (a.merge b).Reachable ∧
      (a.merge b).merge c = a.merge (b.merge c) ∧
      empty.merge a = a ∧ a.merge empty = a ∧
      (a.merge b).merge b = a.merge b ∧
      ∀ attr, attr ∈ (a.merge b).keys ↔ attr ∈ a.keys ∨ attr ∈ b.keys := by
  rw [reachable_iff_wellFormed] at ha hb hc
  exact ⟨entries_merge ha hb, reachable_iff_wellFormed.2 (ha.merge b), merge_assoc ha hb hc,
    empty_merge ha, merge_empty a, merge_merge_self ha hb, fun _ => mem_keys_merge hb⟩

/-- A pattern's attributes, and two that share one key with them or with each other. -/
def patternAttributes : Attributes := ⟨[(.type, "pcre2"), (.negate, "yes")]⟩

def namedAttributes : Attributes := ⟨[(.name, "user"), (.type, "sregex")]⟩

def renamedAttributes : Attributes := ⟨[(.negate, "maybe"), (.name, "host")]⟩

theorem merge_monoid_patternAttributes :
    (patternAttributes.Reachable ∧ namedAttributes.Reachable ∧ renamedAttributes.Reachable) ∧
      (patternAttributes.merge namedAttributes).entries
        = [(.type, "sregex"), (.negate, "yes"), (.name, "user")] ∧
      (patternAttributes.merge namedAttributes).merge renamedAttributes
        = patternAttributes.merge (namedAttributes.merge renamedAttributes) ∧
      empty.merge patternAttributes = patternAttributes ∧
      (patternAttributes.merge namedAttributes).merge namedAttributes
        = patternAttributes.merge namedAttributes ∧
      .negate ∈ (patternAttributes.merge namedAttributes).keys := by
  have ha : patternAttributes.Reachable :=
    ⟨[.set .type (some "pcre2"), .set .negate (some "yes")], by decide⟩
  have hb : namedAttributes.Reachable :=
    ⟨[.set .type (some "sregex"), .clear, .set .name (some "user"), .set .type (some "sregex")],
      by decide⟩
  have hc : renamedAttributes.Reachable :=
    ⟨[.set .name (some "x"), .set .negate (some "maybe"), .remove .name, .set .name (some "host")],
      by decide⟩
  obtain ⟨hentries, -, hassoc, hleft, -, htwice, hkeys⟩ := merge_monoid ha hb hc
  refine ⟨⟨ha, hb, hc⟩, ?_, hassoc, hleft, htwice, ?_⟩
  · rw [hentries]
    decide
  · exact (hkeys .negate).2 (.inl (by decide))

end DetectionRule.Attributes
