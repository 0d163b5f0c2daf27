import DetectionRule.Proofs.Condition.WellFormed
import DetectionRule.Rule.Store

/-!
# What every edit keeps

A store is well formed when its handles are distinct and the attributes of each condition are well
formed. Additions under handles that are not in the store keep it so, and all other edits do. In a
well-formed store the first condition with a handle is the only one, so that finding it, changing
it and taking it away all speak of one place (`Store.PlacesOnce`). Main statement: that is so after
every run from the empty store in which no handle is added twice (`run_wellFormed`).
-/

namespace DetectionRule

/-- The handle under which an edit adds a condition. -/
def Edit.added? : Edit → Option Handle
  | .add id => some id
  | _ => none

def added (edits : List Edit) : List Handle := edits.filterMap Edit.added?

section ChangeFirst

variable {α β : Type} {p : α → Bool} {f : α → α} {as : List α}

theorem map_changeFirst {key : α → β} (h : ∀ a, key (f a) = key a) :
    (changeFirst p f as).map key = as.map key := by
  induction as with
  | nil => rfl
  | cons a as ih =>
    rw [changeFirst]
    split
    · rw [List.map_cons, List.map_cons, h]
    · rw [List.map_cons, List.map_cons, ih]

theorem mem_changeFirst {b : α} (h : b ∈ changeFirst p f as) :
    b ∈ as ∨ ∃ a, as.find? p = some a ∧ b = f a := by
  induction as with
  | nil => cases h
  | cons a as ih =>
    rw [changeFirst] at h
    by_cases hp : p a = true
    · rw [if_pos hp] at h
      rcases List.mem_cons.1 h with rfl | hb
      · exact .inr ⟨a, List.find?_cons_of_pos hp, rfl⟩
      · exact .inl (List.mem_cons_of_mem _ hb)
    · rw [if_neg hp] at h
      rcases List.mem_cons.1 h with rfl | hb
      · exact .inl List.mem_cons_self
      · rcases ih hb with hb | ⟨c, hc, rfl⟩
        · exact .inl (List.mem_cons_of_mem _ hb)
        · exact .inr ⟨c, (List.find?_cons_of_neg hp).trans hc, rfl⟩

theorem find?_changeFirst (h : ∀ a, p (f a) = p a) :
    (changeFirst p f as).find? p = (as.find? p).map f := by
  induction as with
  | nil => rfl
  | cons a as ih =>
    rw [changeFirst]
    by_cases hp : p a = true
    · rw [if_pos hp, List.find?_cons_of_pos hp, List.find?_cons_of_pos ((h a).trans hp)]
      rfl
    · rw [if_neg hp, List.find?_cons_of_neg hp, List.find?_cons_of_neg hp, ih]

theorem changeFirst_eq_modify :
    changeFirst p f as =
      match as.findIdx? p with
      | none => as
      | some i => as.modify i f := by
  induction as with
  | nil => rfl
  | cons a as ih =>
    rw [changeFirst, List.findIdx?_cons]
    split
    · rfl
    · rw [ih]
      cases as.findIdx? p <;> rfl

end ChangeFirst

namespace Store

variable {store : Store} {id : Handle} {edit : Edit} {edits : List Edit} {condition : Condition}

/-! ### Handles -/

def handles (store : Store) : List Handle := store.conditions.map Condition.id

theorem handles_add : (store.add id).handles = store.handles ++ [id] := by
  simp [handles, add, Condition.blank]

theorem handles_update (patch : Patch) : (store.update id patch).handles = store.handles :=
  map_changeFirst fun _ => rfl

theorem handles_setAttribute (attr : Attribute) (value : Option String) :
    (store.setAttribute id attr value).handles = store.handles :=
  map_changeFirst fun _ => rfl

theorem handles_remove :
    (store.remove id).handles = store.handles.filter fun other => !decide (other = id) := by
  rw [handles, handles, remove, List.filter_map]
  rfl

theorem mem_handles_apply {other : Handle} (h : other ∈ (store.apply edit).handles) :
    other ∈ store.handles ∨ edit.added? = some other := by
  cases edit with
  | add id =>
    rw [apply, handles_add, List.mem_append, List.mem_singleton] at h
    exact h.imp_right fun e => congrArg some e.symm
  | update id patch =>
    rw [apply, handles_update] at h
    exact .inl h
  | setAttribute id attr value =>
    rw [apply, handles_setAttribute] at h
    exact .inl h
  | remove id =>
    rw [apply, handles_remove] at h
    exact .inl (List.mem_of_mem_filter h)

/-- The attributes of every condition are well formed. -/
def Stored (store : Store) : Prop :=
  ∀ condition ∈ store.conditions, condition.attributes.WellFormed

theorem stored_empty : empty.Stored := by
  intro condition h
  cases h

theorem Stored.apply (h : store.Stored) (edit : Edit) : (store.apply edit).Stored := by
  intro condition hc
  cases edit with
  | add id =>
    rcases List.mem_append.1 hc with hc | hc
    · exact h condition hc
    · rw [List.mem_singleton] at hc
      subst hc
      exact .empty
  | update id patch =>
    rcases mem_changeFirst hc with hc | ⟨before, hb, rfl⟩
    · exact h condition hc
    · exact Condition.wellFormed_amend (h before (List.mem_of_find?_eq_some hb)) patch
  | setAttribute id attr value =>
    rcases mem_changeFirst hc with hc | ⟨before, hb, rfl⟩
    · exact h condition hc
    · exact Condition.wellFormed_setAttribute (h before (List.mem_of_find?_eq_some hb)) attr value
  | remove id => exact h condition (List.mem_of_mem_filter hc)

theorem Stored.run (h : store.Stored) (edits : List Edit) : (store.run edits).Stored := by
  induction edits generalizing store with
  | nil => exact h
  | cons edit edits ih => exact ih (h.apply edit)

/-! ### Well-formed stores -/

structure WellFormed (store : Store) : Prop where
  distinct : store.handles.Nodup
  stored : store.Stored

theorem wellFormed_empty : empty.WellFormed := ⟨List.nodup_nil, stored_empty⟩

theorem WellFormed.apply (h : store.WellFormed) (fresh : ∀ id ∈ edit.added?, id ∉ store.handles) :
    (store.apply edit).WellFormed where
  stored := h.stored.apply edit
  distinct := by
    cases edit with
    | add id =>
      rw [Store.apply, handles_add]
      have hnew : List.Disjoint store.handles [id] := List.disjoint_singleton.2 (fresh id rfl)
      exact List.Nodup.append h.distinct (List.nodup_singleton id) hnew
    | update id patch =>
      rw [Store.apply, handles_update]
      exact h.distinct
    | setAttribute id attr value =>
      rw [Store.apply, handles_setAttribute]
      exact h.distinct
    | remove id =>
      rw [Store.apply, handles_remove]
      exact h.distinct.filter _

theorem added_cons : added (edit :: edits) = edit.added?.toList ++ added edits := by
  cases edit <;> rfl

theorem WellFormed.run (h : store.WellFormed) (fresh : ∀ id ∈ added edits, id ∉ store.handles)
    (distinct : (added edits).Nodup) : (store.run edits).WellFormed := by
  induction edits generalizing store with
  | nil => exact h
  | cons edit edits ih =>
    rw [added_cons] at fresh distinct
    obtain ⟨-, hrest, hdisjoint⟩ := List.nodup_append'.1 distinct
    have hhead : ∀ id ∈ edit.added?, id ∉ store.handles := by
      intro id hid
      exact fresh id (List.mem_append_left _ (Option.mem_toList.2 hid))
    refine ih (h.apply hhead) ?_ hrest
    intro id hid hm
    rcases mem_handles_apply hm with hold | hnew
    · exact fresh id (List.mem_append_right _ hid) hold
    · exact hdisjoint (Option.mem_toList.2 hnew) hid

/-- Every way to name a condition by its handle leads to one entry and to no other. -/
structure PlacesOnce (store : Store) (id : Handle) : Prop where
  position : ∀ i, store.position? id = some i ↔
    ∃ condition, store.conditions[i]? = some condition ∧ condition.id = id
  get : store.get? id = (store.position? id).bind fun i => store.conditions[i]?
  update : ∀ patch, (store.update id patch).conditions =
    match store.position? id with
    | none => store.conditions
    | some i => store.conditions.modify i (·.amend patch)
  setAttribute : ∀ attr value, (store.setAttribute id attr value).conditions =
    match store.position? id with
    | none => store.conditions
    | some i => store.conditions.modify i (·.setAttribute attr value)
  remove : (store.remove id).conditions =
    match store.position? id with
    | none => store.conditions
    | some i => store.conditions.eraseIdx i
  size_remove : (store.remove id).size + 1 = store.size ↔ (store.get? id).isSome = true

theorem position?_eq_some_iff (distinct : store.handles.Nodup) {i : Nat} :
    store.position? id = some i ↔
      ∃ condition, store.conditions[i]? = some condition ∧ condition.id = id := by
  rw [position?, List.findIdx?_eq_some_iff_getElem]
  constructor
  · rintro ⟨hi, hid, -⟩
    exact ⟨store.conditions[i], List.getElem?_eq_getElem hi, of_decide_eq_true hid⟩
  · rintro ⟨condition, hc, hid⟩
    obtain ⟨hi, hci⟩ := List.getElem?_eq_some_iff.1 hc
    refine ⟨hi, decide_eq_true (hci ▸ hid), ?_⟩
    intro j hj hsame
    -- two places with one handle are one place
    have hlen : store.handles.length = store.conditions.length := List.length_map ..
    have hji : store.handles[j] = store.handles[i] := by
      simp only [handles, List.getElem_map]
      rw [of_decide_eq_true hsame, hci, hid]
    have heq : j = i := (distinct.getElem_inj_iff).1 hji
    omega

theorem conditions_remove (distinct : store.handles.Nodup) (id : Handle) :
    (store.remove id).conditions =
      match store.position? id with
      | none => store.conditions
      | some i => store.conditions.eraseIdx i := by
  show (store.conditions.filter fun condition => !decide (condition.id = id)) = _
  rw [filter_eq_eraseP distinct, List.eraseP_eq_eraseIdx, position?]
  cases store.conditions.findIdx? fun condition => condition.id = id <;> rfl

theorem placesOnce (distinct : store.handles.Nodup) (id : Handle) : store.PlacesOnce id where
  position := fun _ => position?_eq_some_iff distinct
  get := List.find?_eq_bind_findIdx?_getElem?
  update := fun _ => changeFirst_eq_modify
  setAttribute := fun _ _ => changeFirst_eq_modify
  remove := conditions_remove distinct id
  size_remove := by
    have hget : store.get? id = (store.position? id).bind fun i => store.conditions[i]? :=
      List.find?_eq_bind_findIdx?_getElem?
    have hremove := conditions_remove distinct id
    rw [hget]
    cases hp : store.position? id with
    | none =>
      rw [hp] at hremove
      simp [size, hremove]
    | some i =>
      obtain ⟨condition, hc, -⟩ := (position?_eq_some_iff distinct).1 hp
      obtain ⟨hi, -⟩ := List.getElem?_eq_some_iff.1 hc
      rw [hp] at hremove
      simp only [size, hremove, List.length_eraseIdx_of_lt hi, Option.bind_some, hc,
        Option.isSome_some, iff_true]
      omega

theorem run_wellFormed {edits : List Edit} (distinct : (added edits).Nodup) :
    (empty.run edits).handles.Nodup ∧
      (∀ condition ∈ (empty.run edits).conditions, condition.attributes.keys.Nodup ∧
        ∀ entry ∈ condition.attributes.entries,
          isUnset (some entry.2) = false ∧ entry.2 ≠ "" ∧ entry.2 ≠ "no") ∧
      ∀ id, (empty.run edits).PlacesOnce id := by
  have h : (empty.run edits).WellFormed :=
    wellFormed_empty.run (fun _ _ => List.not_mem_nil) distinct
  refine ⟨h.distinct, ?_, placesOnce h.distinct⟩
  intro condition hc
  refine ⟨(h.stored condition hc).distinct, ?_⟩
  intro entry he
  have hgiven := (h.stored condition hc).given entry he
  exact ⟨hgiven, Attributes.ne_of_isUnset_eq_false hgiven⟩

/-- Edits of a handle not added yet and of one taken away, a retag, an attribute set twice and one
set to a value with which it counts as not given. -/
def mixedRun : List Edit :=
  [.setAttribute ⟨1⟩ .name (some "early"), .add ⟨0⟩, .add ⟨1⟩, .add ⟨2⟩,
   .setAttribute ⟨1⟩ .name (some "user"),
   .update ⟨2⟩
    { tag := some .regex
      attributes := some ⟨[(.type, "pcre2"), (.negate, "no"), (.type, "sregex")]⟩ },
   .remove ⟨1⟩, .setAttribute ⟨1⟩ .negate (some "yes"), .setAttribute ⟨2⟩ .negate (some "yes"),
   .update ⟨2⟩ { value := some "^Failed" }]

theorem run_wellFormed_mixedRun :
    (added mixedRun).Nodup ∧ (empty.run mixedRun).position? ⟨2⟩ = some 1 ∧
      (empty.run mixedRun).PlacesOnce ⟨2⟩ ∧
      (empty.run mixedRun).get? ⟨2⟩ =
        some ⟨⟨2⟩, .regex, "^Failed", ⟨[(.type, "sregex"), (.negate, "yes")]⟩⟩ :=
  ⟨by decide, by decide, (run_wellFormed (by decide)).2.2 ⟨2⟩, by decide⟩

end Store

end DetectionRule
