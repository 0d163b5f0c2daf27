import DetectionRule.Condition.Basic
import Mathlib.Data.List.Nodup

/-!
# Well-formed attributes

Stored attributes are well formed when none is there twice and none has a value with which it
counts as not given. Every way to change stored attributes keeps them so, and whatever a patch
carries, the attributes that a condition has after it are well formed.
-/

namespace DetectionRule

theorem filter_eq_eraseP {α β : Type} [DecidableEq β] {f : α → β} {as : List α} {b : β}
    (distinct : (as.map f).Nodup) :
    (as.filter fun a => !decide (f a = b)) = as.eraseP fun a => f a = b := by
  induction as with
  | nil => rfl
  | cons a as ih =>
    obtain ⟨hnew, hrest⟩ := List.nodup_cons.1 distinct
    by_cases ha : f a = b
    · have hall : ∀ other ∈ as, (!decide (f other = b)) = true := by
        intro other ho
        have hne : f other ≠ b := fun e => hnew (ha ▸ e ▸ List.mem_map_of_mem ho)
        simp [hne]
      rw [List.filter_cons_of_neg (by simp [ha]), List.eraseP_cons_of_pos (by simp [ha])]
      exact List.filter_eq_self.2 hall
    · rw [List.filter_cons_of_pos (by simp [ha]), List.eraseP_cons_of_neg (by simp [ha]), ih hrest]

namespace Attributes

structure WellFormed (stored : Attributes) : Prop where
  distinct : stored.keys.Nodup
  given : ∀ entry ∈ stored.entries, isUnset (some entry.2) = false

variable {stored : Attributes} {attr : Attribute} {value : String}
  {entries : List (Attribute × String)}

theorem ne_of_isUnset_eq_false (h : isUnset (some value) = false) : value ≠ "" ∧ value ≠ "no" := by
  simpa [isUnset] using h

theorem keys_putEntry_of_mem (h : attr ∈ entries.map Prod.fst) :
    (putEntry attr value entries).map Prod.fst = entries.map Prod.fst := by
  induction entries with
  | nil => cases h
  | cons entry entries ih =>
    by_cases he : entry.1 = attr
    · rw [putEntry, if_pos he, List.map_cons, List.map_cons, he]
    · have hm : attr ∈ entries.map Prod.fst := (List.mem_cons.1 h).resolve_left (Ne.symm he)
      rw [putEntry, if_neg he, List.map_cons, List.map_cons, ih hm]

theorem putEntry_of_not_mem (h : attr ∉ entries.map Prod.fst) :
    putEntry attr value entries = entries ++ [(attr, value)] := by
  induction entries with
  | nil => rfl
  | cons entry entries ih =>
    have he : entry.1 ≠ attr := fun e => h (e ▸ List.mem_cons_self)
    have hm : attr ∉ entries.map Prod.fst := fun hm => h (List.mem_cons_of_mem _ hm)
    rw [putEntry, if_neg he, ih hm, List.cons_append]

theorem keys_put_of_mem (h : attr ∈ stored.keys) : (stored.put attr value).keys = stored.keys :=
  keys_putEntry_of_mem h

theorem keys_put_of_not_mem (h : attr ∉ stored.keys) :
    (stored.put attr value).keys = stored.keys ++ [attr] := by
  show (putEntry attr value stored.entries).map Prod.fst = _
  rw [putEntry_of_not_mem h, List.map_append]
  rfl

theorem nodup_keys_put (distinct : stored.keys.Nodup) : (stored.put attr value).keys.Nodup := by
  by_cases hm : attr ∈ stored.keys
  · rw [keys_put_of_mem hm]
    exact distinct
  · rw [keys_put_of_not_mem hm]
    have hnew : List.Disjoint stored.keys [attr] := List.disjoint_singleton.2 hm
    exact List.Nodup.append distinct (List.nodup_singleton attr) hnew

theorem nodup_keys_erase (distinct : stored.keys.Nodup) : (stored.erase attr).keys.Nodup :=
  distinct.sublist (List.eraseP_sublist.map _)

theorem keys_erase (distinct : stored.keys.Nodup) :
    (stored.erase attr).keys = stored.keys.filter fun other => other ≠ attr := by
  simp only [ne_eq, decide_not]
  rw [keys, erase, ← filter_eq_eraseP distinct, keys, List.filter_map]
  rfl

theorem keys_put_erase (distinct : stored.keys.Nodup) :
    ((stored.erase attr).put attr value).keys =
      (stored.keys.filter fun other => other ≠ attr) ++ [attr] := by
  have hgone : attr ∉ (stored.erase attr).keys := by
    rw [keys_erase distinct]
    simp
  rw [keys_put_of_not_mem hgone, keys_erase distinct]

theorem mem_putEntry {entry : Attribute × String} (h : entry ∈ putEntry attr value entries) :
    entry = (attr, value) ∨ entry ∈ entries := by
  induction entries with
  | nil => exact .inl (List.mem_singleton.1 h)
  | cons first entries ih =>
    by_cases he : first.1 = attr
    · rw [putEntry, if_pos he, List.mem_cons] at h
      exact h.imp id (List.mem_cons_of_mem _)
    · rw [putEntry, if_neg he, List.mem_cons] at h
      rcases h with rfl | h
      · exact .inr List.mem_cons_self
      · exact (ih h).imp id (List.mem_cons_of_mem _)

theorem mem_set {entry : Attribute × String} {given : Option String}
    (h : entry ∈ (stored.set attr given).entries) :
    (entry.1 = attr ∧ given = some entry.2) ∨ entry ∈ stored.entries := by
  cases given with
  | none => exact .inr (List.mem_of_mem_eraseP h)
  | some value =>
    by_cases hv : isUnset (some value) = true
    · rw [set, if_pos hv] at h
      exact .inr (List.mem_of_mem_eraseP h)
    · rw [set, if_neg hv] at h
      rcases mem_putEntry h with rfl | hold
      · exact .inl ⟨rfl, rfl⟩
      · exact .inr hold

theorem mem_setAll {entry : Attribute × String} {pairs : List (Attribute × String)}
    (h : entry ∈ (stored.setAll pairs).entries) : entry ∈ pairs ∨ entry ∈ stored.entries := by
  induction pairs generalizing stored with
  | nil => exact .inr h
  | cons pair pairs ih =>
    rcases ih h with hlater | hearlier
    · exact .inl (List.mem_cons_of_mem _ hlater)
    · rcases mem_set hearlier with ⟨hattr, hvalue⟩ | hold
      · have hpair : entry = pair := Prod.ext hattr (Option.some_inj.1 hvalue).symm
        exact .inl (hpair ▸ List.mem_cons_self)
      · exact .inr hold

theorem lookup_eq_some_iff_mem (distinct : (entries.map Prod.fst).Nodup) :
    entries.lookup attr = some value ↔ (attr, value) ∈ entries := by
  induction entries with
  | nil => simp
  | cons entry entries ih =>
    obtain ⟨hnew, hrest⟩ := List.nodup_cons.1 distinct
    obtain ⟨first, text⟩ := entry
    rw [List.lookup_cons, List.mem_cons, Prod.mk.injEq]
    by_cases h : attr = first
    · subst h
      have habsent : (attr, value) ∉ entries := fun hm =>
        hnew (List.mem_map.2 ⟨(attr, value), hm, rfl⟩)
      simp [habsent, eq_comm]
    · have hne : (attr == first) = false := beq_false_of_ne h
      simp [hne, h, ih hrest]

/-! ### What changes keep -/

namespace WellFormed

theorem empty : Attributes.empty.WellFormed := ⟨List.nodup_nil, by simp [Attributes.empty]⟩

theorem put (h : stored.WellFormed) (hv : isUnset (some value) = false) :
    (stored.put attr value).WellFormed where
  distinct := nodup_keys_put h.distinct
  given := by
    intro entry hentry
    rcases mem_putEntry hentry with rfl | hold
    · exact hv
    · exact h.given entry hold

theorem erase (h : stored.WellFormed) : (stored.erase attr).WellFormed where
  distinct := nodup_keys_erase h.distinct
  given := fun entry hentry => h.given entry (List.mem_of_mem_eraseP hentry)

theorem set (h : stored.WellFormed) (value : Option String) :
    (stored.set attr value).WellFormed := by
  cases value with
  | none => exact h.erase
  | some value =>
    by_cases hv : isUnset (some value) = true
    · rw [Attributes.set, if_pos hv]
      exact h.erase
    · rw [Attributes.set, if_neg hv]
      exact h.put (Bool.eq_false_iff.2 hv)

theorem setAll (h : stored.WellFormed) (pairs : List (Attribute × String)) :
    (stored.setAll pairs).WellFormed := by
  induction pairs generalizing stored with
  | nil => exact h
  | cons pair pairs ih => exact ih (h.set _)

end WellFormed

/-- Entries under new keys go behind the others, each as it is. -/
theorem setAll_of_nodup {front : List (Attribute × String)}
    (distinct : ((front ++ entries).map Prod.fst).Nodup)
    (given : ∀ entry ∈ entries, isUnset (some entry.2) = false) :
    (Attributes.mk front).setAll entries = ⟨front ++ entries⟩ := by
  induction entries generalizing front with
  | nil => simp
  | cons entry entries ih =>
    have hnew : entry.1 ∉ front.map Prod.fst := by
      rw [List.map_append, List.map_cons] at distinct
      exact fun hm => (List.nodup_append'.1 distinct).2.2 hm List.mem_cons_self
    have hset : (Attributes.mk front).set entry.1 (some entry.2) = ⟨front ++ [entry]⟩ := by
      have hgiven := given entry List.mem_cons_self
      rw [Attributes.set, hgiven, Attributes.put, putEntry_of_not_mem hnew]
      rfl
    have hrest : ((front ++ [entry] ++ entries).map Prod.fst).Nodup := by
      rwa [List.append_assoc, List.singleton_append]
    rw [setAll_cons, hset, ih hrest fun other ho => given other (List.mem_cons_of_mem _ ho),
      List.append_assoc, List.singleton_append]

theorem WellFormed.ofList_entries (h : stored.WellFormed) : ofList stored.entries = stored :=
  setAll_of_nodup h.distinct h.given

end Attributes

namespace Condition

variable {condition : Condition}

/-- A patch brings attributes in one by one, so they need not be well formed where it has them. -/
theorem wellFormed_amend (h : condition.attributes.WellFormed) (patch : Patch) :
    (condition.amend patch).attributes.WellFormed := by
  cases hp : patch.attributes with
  | some given =>
    rw [amend, hp]
    exact Attributes.WellFormed.empty.setAll given.entries
  | none =>
    rw [amend, hp]
    cases patch.tag with
    | some tag => exact .empty
    | none => exact h

theorem wellFormed_setAttribute (h : condition.attributes.WellFormed) (attr : Attribute)
    (value : Option String) : (condition.setAttribute attr value).attributes.WellFormed :=
  h.set value

end Condition

end DetectionRule
