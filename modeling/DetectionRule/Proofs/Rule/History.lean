import DetectionRule.Proofs.Rule.Invariant
import Mathlib.Data.List.Induction

/-!
# A store as the histories of its conditions

Each condition of a run has a history of its own: the patches and attribute settings that named it
after it was added. The store at the end of a run is the sequence of the conditions that were not
taken away, in the order of their additions, each as its history makes it of a blank condition.
Main statement: `run_refines_histories`, with what follows for edits made in another order, for
handles taken away and for edits that neither add nor take away.
-/

namespace DetectionRule

inductive Change
  | amend (patch : Patch)
  | setAttribute (attr : Attribute) (value : Option String)
deriving DecidableEq

def Condition.change (condition : Condition) : Change → Condition
  | .amend patch => condition.amend patch
  | .setAttribute attr value => condition.setAttribute attr value

def Edit.handle : Edit → Handle
  | .add id | .update id _ | .setAttribute id _ _ | .remove id => id

/-- What an edit makes of the condition that it names. -/
def Edit.change? : Edit → Option Change
  | .update _ patch => some (.amend patch)
  | .setAttribute _ attr value => some (.setAttribute attr value)
  | .add _ | .remove _ => none

/-- The edits behind the addition of the handle. Edits before it find no condition with it. -/
def since (id : Handle) : List Edit → List Edit
  | [] => []
  | edit :: edits => if edit.added? = some id then edits else since id edits

/-- The edits that name the handle. -/
def own (id : Handle) (edits : List Edit) : List Edit := edits.filter fun edit => edit.handle = id

def history (id : Handle) (edits : List Edit) : List Change :=
  (own id (since id edits)).filterMap Edit.change?

def replay (id : Handle) (edits : List Edit) : Condition :=
  (history id edits).foldl Condition.change (Condition.blank id)

/-- The handles added and not taken away afterwards, in the order in which they were added. -/
def survivors (edits : List Edit) : List Handle :=
  (added edits).filter fun id => .remove id ∉ since id edits

variable {id : Handle} {edit : Edit} {edits more : List Edit} {made : Change}

theorem mem_survivors : id ∈ survivors edits ↔ id ∈ added edits ∧ .remove id ∉ since id edits := by
  simp [survivors]

theorem Condition.change_id (condition : Condition) (change : Change) :
    (condition.change change).id = condition.id := by
  cases change <;> rfl

theorem replay_id : (replay id edits).id = id := by
  have h : ∀ (changes : List Change) (condition : Condition),
      (changes.foldl Condition.change condition).id = condition.id := by
    intro changes
    induction changes with
    | nil => exact fun _ => rfl
    | cons change changes ih =>
      intro condition
      rw [List.foldl_cons, ih, Condition.change_id]
  exact h (history id edits) (Condition.blank id)

/-! ### One more edit -/

theorem added_append : added (edits ++ more) = added edits ++ added more := List.filterMap_append

theorem since_append_of_mem (h : id ∈ added edits) :
    since id (edits ++ more) = since id edits ++ more := by
  induction edits with
  | nil => cases h
  | cons edit edits ih =>
    rw [List.cons_append, since, since]
    by_cases he : edit.added? = some id
    · rw [if_pos he, if_pos he]
    · rw [Store.added_cons, List.mem_append, Option.mem_toList] at h
      rw [if_neg he, if_neg he, ih (h.resolve_left he)]

theorem since_append_of_not_mem (h : id ∉ added edits) :
    since id (edits ++ more) = since id more := by
  induction edits with
  | nil => rfl
  | cons edit edits ih =>
    rw [Store.added_cons, List.mem_append, Option.mem_toList, not_or] at h
    rw [List.cons_append, since, if_neg h.1, ih h.2]

theorem own_append : own id (edits ++ more) = own id edits ++ own id more := List.filter_append ..

theorem history_append_singleton (h : id ∈ added edits) :
    history id (edits ++ [edit]) =
      history id edits ++ if edit.handle = id then edit.change?.toList else [] := by
  rw [history, since_append_of_mem h, own_append, List.filterMap_append]
  by_cases hnamed : edit.handle = id
  · have hself : own id [edit] = [edit] := by simp [own, hnamed]
    rw [if_pos hnamed, hself]
    cases hc : edit.change? with
    | none => rw [List.filterMap_cons_none hc]; rfl
    | some made => rw [List.filterMap_cons_some hc]; rfl
  · have hnone : own id [edit] = [] := by simp [own, hnamed]
    rw [if_neg hnamed, hnone]
    rfl

theorem replay_append_of_change (h : id ∈ added edits) (hc : edit.change? = some made) :
    replay id (edits ++ [edit]) =
      if edit.handle = id then (replay id edits).change made else replay id edits := by
  rw [replay, history_append_singleton h, hc, List.foldl_append]
  split <;> rfl

theorem replay_append_of_none (h : id ∈ added edits) (hc : edit.change? = none) :
    replay id (edits ++ [edit]) = replay id edits := by
  rw [replay, history_append_singleton h, hc, List.foldl_append]
  split <;> rfl

theorem replay_append_add (h : id ∉ added edits) :
    replay id (edits ++ [.add id]) = Condition.blank id := by
  rw [replay, history, since_append_of_not_mem h]
  simp [since, Edit.added?, own]

theorem survivors_append_singleton (h : edit.added? = none) :
    survivors (edits ++ [edit]) = (survivors edits).filter fun id => edit ≠ .remove id := by
  have hadded : added (edits ++ [edit]) = added edits := by
    rw [added_append, Store.added_cons, h]
    exact List.append_nil _
  rw [survivors, survivors, hadded, List.filter_filter]
  apply List.filter_congr
  intro id hid
  rw [since_append_of_mem hid]
  have hmem : Edit.remove id ∈ [edit] ↔ edit = .remove id := by
    rw [List.mem_singleton, eq_comm]
  simp [hmem, and_comm]

theorem survivors_append_add (h : id ∉ added edits) :
    survivors (edits ++ [.add id]) = survivors edits ++ [id] := by
  have hnew : since id (edits ++ [.add id]) = [] := by
    rw [since_append_of_not_mem h]
    simp [since, Edit.added?]
  rw [survivors, added_append, List.filter_append]
  congr 1
  · apply List.filter_congr
    intro other ho
    rw [since_append_of_mem ho]
    simp
  · show [id].filter _ = [id]
    simp [hnew]

/-! ### The whole store -/

theorem changeFirst_map {ids : List Handle} {f : Handle → Condition} {g : Condition → Condition}
    (distinct : ids.Nodup) (hf : ∀ other, (f other).id = other) :
    changeFirst (fun condition => condition.id = id) g (ids.map f)
      = ids.map fun other => if other = id then g (f other) else f other := by
  induction ids with
  | nil => rfl
  | cons first ids ih =>
    obtain ⟨hnew, hrest⟩ := List.nodup_cons.1 distinct
    rw [List.map_cons, changeFirst, hf, List.map_cons]
    by_cases hfirst : first = id
    · have hothers : ids.map (fun other => if other = id then g (f other) else f other)
          = ids.map f := by
        apply List.map_congr_left
        intro other ho
        have hne : other ≠ id := fun e => hnew (hfirst ▸ e ▸ ho)
        rw [if_neg hne]
      rw [if_pos (decide_eq_true hfirst), if_pos hfirst, hothers]
    · rw [if_neg (by simp [hfirst]), if_neg hfirst, ih hrest]

theorem apply_of_change (store : Store) (hc : edit.change? = some made) :
    store.apply edit =
      ⟨changeFirst (fun condition => condition.id = edit.handle) (·.change made)
        store.conditions⟩ := by
  cases edit with
  | add id => cases hc
  | remove id => cases hc
  | update id patch => cases hc; rfl
  | setAttribute id attr value => cases hc; rfl

/-- The store holds what the histories of the run make of its survivors. -/
def Follows (store : Store) (edits : List Edit) : Prop :=
  store.conditions = (survivors edits).map fun id => replay id edits

namespace Follows

variable {store : Store}

theorem mem_added_of_mem_survivors (h : id ∈ survivors edits) : id ∈ added edits :=
  (mem_survivors.1 h).1

theorem add (h : Follows store edits) (hnew : id ∉ added edits) :
    Follows (store.add id) (edits ++ [.add id]) := by
  have hothers : (survivors edits).map (fun other => replay other (edits ++ [.add id]))
      = store.conditions := by
    rw [h]
    apply List.map_congr_left
    intro other ho
    exact replay_append_of_none (mem_added_of_mem_survivors ho) rfl
  rw [Follows, survivors_append_add hnew, List.map_append, hothers, List.map_singleton,
    replay_append_add hnew]
  rfl

theorem remove (h : Follows store edits) : Follows (store.remove id) (edits ++ [.remove id]) := by
  have hsame : (survivors edits).filter
        ((fun condition => !decide (condition.id = id)) ∘ fun other => replay other edits)
      = survivors (edits ++ [.remove id]) := by
    rw [survivors_append_singleton rfl]
    apply List.filter_congr
    intro other _
    simp [replay_id, eq_comm]
  show store.conditions.filter _ = _
  rw [h, List.filter_map, hsame]
  apply List.map_congr_left
  intro other ho
  rw [survivors_append_singleton rfl] at ho
  have hadded := mem_added_of_mem_survivors (List.mem_of_mem_filter ho)
  exact (replay_append_of_none hadded rfl).symm

/-- An edit that changes the condition it names adds to one history and to no other. -/
theorem change (h : Follows store edits) (distinct : (added edits).Nodup)
    (hc : edit.change? = some made) : Follows (store.apply edit) (edits ++ [edit]) := by
  have hadd : edit.added? = none := by cases edit <;> first | rfl | cases hc
  have hremove : ∀ id, edit ≠ .remove id := by
    rintro id rfl
    cases hc
  have hall : survivors (edits ++ [edit]) = survivors edits := by
    rw [survivors_append_singleton hadd]
    apply List.filter_eq_self.2
    intro id _
    exact decide_eq_true (hremove id)
  have hids : (survivors edits).Nodup := distinct.filter _
  rw [apply_of_change store hc, Follows, h, changeFirst_map hids fun _ => replay_id, hall]
  apply List.map_congr_left
  intro id hid
  rw [replay_append_of_change (mem_added_of_mem_survivors hid) hc]
  simp only [eq_comm]

theorem apply (h : Follows store edits) (distinct : (added (edits ++ [edit])).Nodup) :
    Follows (store.apply edit) (edits ++ [edit]) := by
  rw [added_append] at distinct
  obtain ⟨hbefore, -, hdisjoint⟩ := List.nodup_append'.1 distinct
  cases edit with
  | add id => exact h.add fun hid => hdisjoint hid List.mem_cons_self
  | remove id => exact h.remove
  | update id patch => exact h.change hbefore rfl
  | setAttribute id attr value => exact h.change hbefore rfl

theorem run (distinct : (added edits).Nodup) : Follows (Store.empty.run edits) edits := by
  -- By induction on the run from its end, one edit after the others.
  induction edits using List.reverseRecOn with
  | nil => rfl
  | append_singleton edits edit ih =>
    have hbefore : (added edits).Nodup := by
      rw [added_append] at distinct
      exact distinct.of_append_left
    rw [Store.run_append, Store.run_cons, Store.run_nil]
    exact (ih hbefore).apply distinct

end Follows

/-! ### Edits in another order -/

theorem own_cons_of_handle (h : edit.handle = id) : own id (edit :: edits) = edit :: own id edits :=
  List.filter_cons_of_pos (decide_eq_true h)

theorem own_cons_of_ne (h : edit.handle ≠ id) : own id (edit :: edits) = own id edits :=
  List.filter_cons_of_neg (by simpa using h)

theorem own_own : own id (own id edits) = own id edits := by
  rw [own, own, List.filter_filter]
  simp

/-- Two neighbouring edits of different conditions may change places. -/
theorem own_swap {first second : Edit} (h : first.handle ≠ second.handle) :
    own id (edits ++ first :: second :: more) = own id (edits ++ second :: first :: more) := by
  rw [own_append, own_append]
  congr 1
  by_cases hfirst : first.handle = id
  · have hsecond : second.handle ≠ id := fun e => h (hfirst.trans e.symm)
    rw [own_cons_of_handle hfirst, own_cons_of_ne hsecond, own_cons_of_ne hsecond,
      own_cons_of_handle hfirst]
  · rw [own_cons_of_ne hfirst]
    by_cases hsecond : second.handle = id
    · rw [own_cons_of_handle hsecond, own_cons_of_handle hsecond, own_cons_of_ne hfirst]
    · rw [own_cons_of_ne hsecond, own_cons_of_ne hsecond, own_cons_of_ne hfirst]

theorem handle_eq_of_added? (h : edit.added? = some id) : edit.handle = id := by
  cases edit <;> cases h
  rfl

theorem filter_added : (added edits).filter (fun other => other = id) = added (own id edits) := by
  induction edits with
  | nil => rfl
  | cons edit edits ih =>
    rw [Store.added_cons, List.filter_append, ih]
    by_cases hnamed : edit.handle = id
    · have hkeep : edit.added?.toList.filter (fun other => other = id) = edit.added?.toList := by
        apply List.filter_eq_self.2
        intro other ho
        have hother := handle_eq_of_added? (Option.mem_toList.1 ho)
        exact decide_eq_true (hother.symm.trans hnamed)
      rw [own_cons_of_handle hnamed, Store.added_cons, hkeep]
    · have hdrop : edit.added?.toList.filter (fun other => other = id) = [] := by
        apply List.filter_eq_nil_iff.2
        intro other ho heq
        have hother := handle_eq_of_added? (Option.mem_toList.1 ho)
        exact hnamed (hother.trans (of_decide_eq_true heq))
      rw [own_cons_of_ne hnamed, hdrop, List.nil_append]

theorem mem_added_own : id ∈ added (own id edits) ↔ id ∈ added edits := by
  rw [← filter_added, List.mem_filter]
  simp

theorem since_own : since id (own id edits) = own id (since id edits) := by
  induction edits with
  | nil => rfl
  | cons edit edits ih =>
    by_cases hnamed : edit.handle = id
    · rw [own_cons_of_handle hnamed, since, since]
      by_cases hadd : edit.added? = some id
      · rw [if_pos hadd, if_pos hadd]
      · rw [if_neg hadd, if_neg hadd, ih]
    · have hadd : edit.added? ≠ some id := fun h => hnamed (handle_eq_of_added? h)
      rw [own_cons_of_ne hnamed, since, if_neg hadd, ih]

theorem replay_own : replay id (own id edits) = replay id edits := by
  rw [replay, replay, history, history, since_own, own_own]

theorem mem_survivors_own : id ∈ survivors (own id edits) ↔ id ∈ survivors edits := by
  have hremove : Edit.remove id ∈ own id (since id edits) ↔ Edit.remove id ∈ since id edits := by
    simp [own, Edit.handle]
  rw [mem_survivors, mem_survivors, mem_added_own, since_own, hremove]

theorem nodup_added_of_own_eq (distinct : (added edits).Nodup)
    (h : ∀ id, own id more = own id edits) : (added more).Nodup := by
  rw [List.nodup_iff_count_le_one] at distinct ⊢
  intro id
  have hcount : ∀ run : List Edit, (added run).count id = (added (own id run)).length := by
    intro run
    rw [← filter_added, List.count_eq_length_filter]
    rfl
  rw [hcount, h, ← hcount]
  exact distinct id

namespace Store

theorem get?_run (distinct : (added edits).Nodup) :
    (empty.run edits).get? id = if id ∈ survivors edits then some (replay id edits) else none := by
  have hrun : (empty.run edits).conditions = _ := Follows.run distinct
  have hids : ((fun condition : Condition => decide (condition.id = id)) ∘
        fun other => replay other edits) = fun other => decide (other = id) := by
    funext other
    simp [replay_id]
  rw [get?, hrun, List.find?_map, hids]
  cases hf : (survivors edits).find? fun other => decide (other = id) with
  | none =>
    have habsent : id ∉ survivors edits := by
      intro hid
      simpa using List.find?_eq_none.1 hf id hid
    rw [if_neg habsent]
    rfl
  | some found =>
    have hfound : found = id := by simpa using List.find?_some hf
    have hpresent : id ∈ survivors edits := hfound ▸ List.mem_of_find?_eq_some hf
    rw [if_pos hpresent, hfound]
    rfl

theorem get?_run_eq (distinct : (added edits).Nodup) (h : ∀ id, own id more = own id edits) :
    (empty.run more).get? id = (empty.run edits).get? id := by
  rw [get?_run distinct, get?_run (nodup_added_of_own_eq distinct h), ← replay_own, h, replay_own]
  have hsame : id ∈ survivors more ↔ id ∈ survivors edits := by
    rw [← mem_survivors_own, h, mem_survivors_own]
  simp only [hsame]

/-- With the additions in their order too, the edits of different conditions may be interleaved in
any way. -/
theorem run_eq_of_own_eq (distinct : (added edits).Nodup) (h : ∀ id, own id more = own id edits)
    (hadded : added more = added edits) : empty.run more = empty.run edits := by
  have hedits : (empty.run edits).conditions = _ := Follows.run distinct
  have hmore : (empty.run more).conditions = _ := Follows.run (hadded ▸ distinct)
  have hsurvivors : survivors more = survivors edits := by
    rw [survivors, survivors, hadded]
    apply List.filter_congr
    intro id hid
    have hsame : id ∈ survivors (own id more) ↔ id ∈ survivors more := mem_survivors_own
    rw [h, mem_survivors_own, mem_survivors, mem_survivors, hadded] at hsame
    simp only [hid, true_and] at hsame
    simp only [hsame]
  have hreplay : ∀ id, replay id more = replay id edits := by
    intro id
    rw [← replay_own, h, replay_own]
  have hconditions : (empty.run more).conditions = (empty.run edits).conditions := by
    rw [hmore, hedits, hsurvivors]
    simp only [hreplay]
  exact congrArg Store.mk hconditions

theorem handles_apply (hadd : ∀ id, edit ≠ .add id) (hremove : ∀ id, edit ≠ .remove id)
    (store : Store) : (store.apply edit).handles = store.handles := by
  cases edit with
  | add id => exact absurd rfl (hadd id)
  | remove id => exact absurd rfl (hremove id)
  | update id patch => exact handles_update patch
  | setAttribute id attr value => exact handles_setAttribute attr value

theorem size_eq_length_handles (store : Store) : store.size = store.handles.length :=
  (List.length_map ..).symm

theorem get?_run_of_removed (hadded : id ∈ added edits)
    (distinct : (added (edits ++ .remove id :: more)).Nodup) :
    (empty.run (edits ++ .remove id :: more)).get? id = none := by
  rw [get?_run distinct, if_neg]
  intro h
  have hstays := (mem_survivors.1 h).2
  rw [since_append_of_mem hadded] at hstays
  exact hstays (List.mem_append_right _ List.mem_cons_self)

theorem run_refines_histories (distinct : (added edits).Nodup) :
    (empty.run edits).conditions = (survivors edits).map (fun id => replay id edits) ∧
      (∀ other, (∀ id, own id other = own id edits) →
        (∀ id, (empty.run other).get? id = (empty.run edits).get? id) ∧
          (added other = added edits → empty.run other = empty.run edits)) ∧
      (∀ (store : Store) (edit : Edit), (∀ id, edit ≠ .add id) → (∀ id, edit ≠ .remove id) →
        (store.apply edit).handles = store.handles ∧ (store.apply edit).size = store.size) ∧
      ∀ id more, id ∈ added edits → (added (edits ++ .remove id :: more)).Nodup →
        (empty.run (edits ++ .remove id :: more)).get? id = none := by
  refine ⟨Follows.run distinct, ?_, ?_, ?_⟩
  · intro other h
    exact ⟨fun _ => get?_run_eq distinct h, run_eq_of_own_eq distinct h⟩
  · intro store edit hadd hremove
    have hhandles := handles_apply hadd hremove store
    refine ⟨hhandles, ?_⟩
    rw [size_eq_length_handles, hhandles, size_eq_length_handles]
  · intro id more
    exact get?_run_of_removed

/-- The run of `mixedRun` with the removal put before the retag. -/
def reorderedRun : List Edit :=
  mixedRun.take 5 ++ .remove ⟨1⟩ :: mixedRun[5] :: mixedRun.drop 7

theorem run_refines_histories_mixedRun :
    survivors mixedRun = [⟨0⟩, ⟨2⟩] ∧
      history ⟨1⟩ mixedRun =
        [.setAttribute .name (some "user"), .setAttribute .negate (some "yes")] ∧
      (empty.run mixedRun).conditions = [replay ⟨0⟩ mixedRun, replay ⟨2⟩ mixedRun] ∧
      reorderedRun ≠ mixedRun ∧ empty.run reorderedRun = empty.run mixedRun ∧
      ((empty.run mixedRun).apply (.setAttribute ⟨0⟩ .name none)).size = 2 ∧
      (empty.run
        (mixedRun ++ [.remove ⟨2⟩, .update ⟨2⟩ { value := some "back" }, .add ⟨3⟩])).get? ⟨2⟩
          = none := by
  have hdistinct : (added mixedRun).Nodup := by decide
  obtain ⟨hconditions, horder, hkeep, hgone⟩ := run_refines_histories hdistinct
  have hown : ∀ id, own id reorderedRun = own id mixedRun := by
    intro id
    exact own_swap (by decide)
  refine ⟨by decide, by decide, hconditions, by decide, ?_, ?_, ?_⟩
  · exact (horder reorderedRun hown).2 (by decide)
  · exact (hkeep (empty.run mixedRun) (.setAttribute ⟨0⟩ .name none) nofun nofun).2
  · exact hgone ⟨2⟩ [.update ⟨2⟩ { value := some "back" }, .add ⟨3⟩] (by decide) (by decide)

end Store

end DetectionRule
