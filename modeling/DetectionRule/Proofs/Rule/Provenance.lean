import DetectionRule.Proofs.Rule.Finding
import DetectionRule.Proofs.Rule.History

/-!
# Where stored attributes come from

A patch with a tag takes away what was stored before it, even where the tag is the old one, and
what it brings in itself stays. So each stored attribute was written by an edit of its condition
that no later edit gave a tag (`WrittenSinceRetag`). Where every edit writes only what suits the
tag that the condition has after it, no attribute is ever misplaced or invalid. Main statement:
`stored_since_retag`.
-/

namespace DetectionRule

namespace Edit

/-- The entries that an edit sets, those with which an attribute counts as not given included. -/
def written : Edit → List (Attribute × String)
  | .update _ { attributes := some given, .. } => given.entries
  | .setAttribute _ attr (some value) => [(attr, value)]
  | _ => []

def carriesTag : Edit → Bool
  | .update _ patch => patch.tag.isSome
  | _ => false

end Edit

variable {id : Handle} {edit : Edit} {edits more : List Edit} {made : Change}
  {entry : Attribute × String} {condition : Condition} {store : Store}

theorem Edit.carriesTag_of_change?_eq_none (h : edit.change? = none) : edit.carriesTag = false := by
  cases edit <;> first | rfl | cases h

/-- What is stored after a change was written by it or was there before, and then it gave no tag. -/
theorem Condition.mem_entries_change (hc : edit.change? = some made)
    (h : entry ∈ (condition.change made).attributes.entries) :
    entry ∈ edit.written ∨ (entry ∈ condition.attributes.entries ∧ edit.carriesTag = false) := by
  cases edit with
  | add id => cases hc
  | remove id => cases hc
  | update id patch =>
    cases hc
    obtain ⟨tag, value, attributes⟩ := patch
    cases attributes with
    | some given =>
      have hgiven : entry ∈ given.entries ∨ entry ∈ Attributes.empty.entries :=
        Attributes.mem_setAll h
      exact .inl (hgiven.resolve_right List.not_mem_nil)
    | none =>
      cases tag with
      | some tag => exact absurd h List.not_mem_nil
      | none => exact .inr ⟨h, rfl⟩
  | setAttribute id attr value =>
    cases hc
    rcases Attributes.mem_set h with ⟨hattr, rfl⟩ | hold
    · have hentry : entry = (attr, entry.2) := Prod.ext hattr rfl
      exact .inl (List.mem_singleton.2 hentry)
    · exact .inr ⟨hold, rfl⟩

theorem Condition.tag_change (hc : edit.change? = some made) (h : edit.carriesTag = false) :
    (condition.change made).tag = condition.tag := by
  cases edit with
  | add id => cases hc
  | remove id => cases hc
  | setAttribute id attr value => cases hc; rfl
  | update id patch =>
    cases hc
    have hnone : patch.tag = none := by simpa [Edit.carriesTag] using h
    show patch.tag.getD condition.tag = condition.tag
    rw [hnone, Option.getD_none]

/-! ### Since the last tag -/

/-- An edit of the condition wrote the entry, and no later one of its edits carried a tag. -/
def WrittenSinceRetag (id : Handle) (entry : Attribute × String) (edits : List Edit) : Prop :=
  ∃ before edit after, edits = before ++ edit :: after ∧ .add id ∈ before ∧
    edit.handle = id ∧ entry ∈ edit.written ∧
    ∀ later ∈ after, later.handle = id → later.carriesTag = false

theorem mem_added : id ∈ added edits ↔ .add id ∈ edits := by
  rw [added, List.mem_filterMap]
  constructor
  · rintro ⟨edit, hedit, hadd⟩
    cases edit <;> cases hadd
    exact hedit
  · intro h
    exact ⟨.add id, h, rfl⟩

namespace WrittenSinceRetag

theorem last (hadd : .add id ∈ edits) (hid : edit.handle = id) (hw : entry ∈ edit.written) :
    WrittenSinceRetag id entry (edits ++ [edit]) :=
  ⟨edits, edit, [], rfl, hadd, hid, hw, fun _ hlater => absurd hlater List.not_mem_nil⟩

theorem append (h : WrittenSinceRetag id entry edits)
    (hkeep : edit.handle = id → edit.carriesTag = false) :
    WrittenSinceRetag id entry (edits ++ [edit]) := by
  obtain ⟨before, writer, after, rfl, hadd, hid, hw, hlater⟩ := h
  refine ⟨before, writer, after ++ [edit], by simp, hadd, hid, hw, ?_⟩
  intro later hl
  rcases List.mem_append.1 hl with hl | hl
  · exact hlater later hl
  · rw [List.mem_singleton] at hl
    exact hl ▸ hkeep

theorem of_replay (hid : id ∈ added edits)
    (h : entry ∈ (replay id edits).attributes.entries) : WrittenSinceRetag id entry edits := by
  -- By induction on the run from its end: the last edit wrote the entry, or left it without
  -- giving a tag, or was about another condition.
  induction edits using List.reverseRecOn with
  | nil => cases hid
  | append_singleton edits edit ih =>
    by_cases hold : id ∈ added edits
    · cases hc : edit.change? with
      | none =>
        rw [replay_append_of_none hold hc] at h
        exact (ih hold h).append fun _ => edit.carriesTag_of_change?_eq_none hc
      | some made =>
        rw [replay_append_of_change hold hc] at h
        by_cases hnamed : edit.handle = id
        · rw [if_pos hnamed] at h
          rcases Condition.mem_entries_change hc h with hw | ⟨hbefore, hkeep⟩
          · exact last (mem_added.1 hold) hnamed hw
          · exact (ih hold hbefore).append fun _ => hkeep
        · rw [if_neg hnamed] at h
          exact (ih hold h).append fun e => absurd e hnamed
    · -- the condition has just been added, and nothing is stored in it
      have hlast : edit = .add id := by
        have hadd := mem_added.1 hid
        rw [List.mem_append, List.mem_singleton] at hadd
        exact (hadd.resolve_left fun hm => hold (mem_added.2 hm)).symm
      rw [hlast, replay_append_add hold] at h
      exact absurd h List.not_mem_nil

theorem of_run (distinct : (added edits).Nodup)
    (hc : condition ∈ (Store.empty.run edits).conditions)
    (h : entry ∈ condition.attributes.entries) : WrittenSinceRetag condition.id entry edits := by
  have hrun : (Store.empty.run edits).conditions = _ := Follows.run distinct
  rw [hrun] at hc
  obtain ⟨id, hid, rfl⟩ := List.mem_map.1 hc
  rw [replay_id]
  exact of_replay (Follows.mem_added_of_mem_survivors hid) h

end WrittenSinceRetag

/-! ### Disciplined runs -/

/-- The tag takes the attribute, and the attribute admits the value. -/
def Tag.suits (tag : Tag) (entry : Attribute × String) : Bool :=
  tag.takes entry.1 && entry.1.admits entry.2

/-- What the edit writes suits the tag that its condition has after it, where it counts as given. -/
def Edit.Suits (store : Store) (edit : Edit) : Prop :=
  ∀ condition ∈ (store.apply edit).get? edit.handle, ∀ entry ∈ edit.written,
    isUnset (some entry.2) = false → condition.tag.suits entry = true

instance (store : Store) (edit : Edit) : Decidable (edit.Suits store) :=
  inferInstanceAs (Decidable (∀ condition ∈ (store.apply edit).get? edit.handle,
    ∀ entry ∈ edit.written, isUnset (some entry.2) = false → condition.tag.suits entry = true))

/-- Each edit suits the store that it comes upon. -/
def Disciplined (store : Store) : List Edit → Prop
  | [] => True
  | edit :: edits => edit.Suits store ∧ Disciplined (store.apply edit) edits

def decideDisciplined : (store : Store) → (edits : List Edit) → Decidable (Disciplined store edits)
  | _, [] => .isTrue trivial
  | store, edit :: edits =>
    have := decideDisciplined (store.apply edit) edits
    inferInstanceAs (Decidable (edit.Suits store ∧ Disciplined (store.apply edit) edits))

instance (store : Store) (edits : List Edit) : Decidable (Disciplined store edits) :=
  decideDisciplined store edits

namespace Store

def Suited (store : Store) : Prop :=
  ∀ condition ∈ store.conditions, ∀ entry ∈ condition.attributes.entries,
    condition.tag.suits entry = true

theorem suited_empty : empty.Suited := by
  intro condition h
  cases h

theorem get?_apply (hc : edit.change? = some made) :
    (store.apply edit).get? edit.handle = (store.get? edit.handle).map (·.change made) := by
  rw [apply_of_change store hc, get?, get?]
  exact find?_changeFirst fun condition => by rw [condition.change_id]

theorem Suited.apply (h : store.Suited) (hstored : store.Stored) (hs : edit.Suits store) :
    (store.apply edit).Suited := by
  have hgiven := hstored.apply edit
  intro condition hcondition entry he
  cases hc : edit.change? with
  | none =>
    cases edit with
    | update id patch => cases hc
    | setAttribute id attr value => cases hc
    | remove id => exact h condition (List.mem_of_mem_filter hcondition) entry he
    | add id =>
      rcases List.mem_append.1 hcondition with hold | hnew
      · exact h condition hold entry he
      · rw [List.mem_singleton] at hnew
        subst hnew
        exact absurd he List.not_mem_nil
  | some made =>
    have hchanged := hcondition
    rw [apply_of_change store hc] at hchanged
    rcases mem_changeFirst hchanged with hold | ⟨before, hbefore, rfl⟩
    · exact h condition hold entry he
    · rcases Condition.mem_entries_change hc he with hw | ⟨hold, hkeep⟩
      · have hget : before.change made ∈ (store.apply edit).get? edit.handle := by
          have hfound : store.get? edit.handle = some before := hbefore
          rw [get?_apply hc, hfound]
          rfl
        exact hs _ hget entry hw ((hgiven _ hcondition).given entry he)
      · rw [Condition.tag_change hc hkeep]
        exact h before (List.mem_of_find?_eq_some hbefore) entry hold

theorem Suited.run (h : store.Suited) (hstored : store.Stored) (hd : Disciplined store edits)
    {before : List Edit} (hbefore : before <+: edits) : (store.run before).Suited := by
  induction edits generalizing store before with
  | nil =>
    rw [List.prefix_nil.1 hbefore]
    exact h
  | cons edit edits ih =>
    rcases List.prefix_cons_iff.1 hbefore with rfl | ⟨rest, rfl, hrest⟩
    · exact h
    · exact ih (h.apply hstored hd.1) (hstored.apply edit) hd.2 hrest

theorem Suited.misplaced_eq_nil (h : store.Suited) (hc : condition ∈ store.conditions) :
    condition.misplaced = [] := by
  rw [List.eq_nil_iff_forall_not_mem]
  intro attr hattr
  obtain ⟨hkey, htakes⟩ := Condition.mem_misplaced.1 hattr
  obtain ⟨entry, he, rfl⟩ := List.mem_map.1 hkey
  have hsuits := h condition hc entry he
  rw [Tag.suits, htakes] at hsuits
  cases hsuits

theorem Suited.invalidAttributes_eq_nil (h : store.Suited) (hc : condition ∈ store.conditions) :
    condition.invalidAttributes = [] := by
  rw [List.eq_nil_iff_forall_not_mem]
  rintro ⟨attr, value⟩ hentry
  obtain ⟨he, htakes, hadmits⟩ := Condition.mem_invalidAttributes.1 hentry
  have hsuits := h condition hc _ he
  rw [Tag.suits, htakes, hadmits] at hsuits
  cases hsuits

theorem Suited.check_ne (h : store.Suited) {mode : TextMode} {header : Header}
    {finding : Finding} (hf : finding ∈ findings mode header store.conditions) :
    finding.check ≠ .attributeNotAllowed ∧ finding.check ≠ .invalidAttributeValue := by
  rcases mem_findings.1 hf with
    ⟨fault, -, rfl⟩ | ⟨-, rfl⟩ | ⟨i, condition, hplace, fault, hfault, rfl⟩
  · cases fault <;> exact ⟨nofun, nofun⟩
  · exact ⟨nofun, nofun⟩
  · have hc := List.mem_of_getElem? hplace
    cases fault with
    | misplacedAttribute attr =>
      have hattr := Condition.misplacedAttribute_mem_faults.1 hfault
      rw [h.misplaced_eq_nil hc] at hattr
      cases hattr
    | invalidValue attr value =>
      have hentry := Condition.invalidValue_mem_faults.1 hfault
      rw [h.invalidAttributes_eq_nil hc] at hentry
      cases hentry
    | markupInValue => exact ⟨nofun, nofun⟩
    | markupInAttribute attr => exact ⟨nofun, nofun⟩
    | emptyValue => exact ⟨nofun, nofun⟩

theorem stored_since_retag {edits : List Edit} (distinct : (added edits).Nodup) :
    (∀ condition ∈ (empty.run edits).conditions, ∀ entry ∈ condition.attributes.entries,
        WrittenSinceRetag condition.id entry edits) ∧
      (Disciplined empty edits → ∀ before, before <+: edits →
        (∀ condition ∈ (empty.run before).conditions, condition.misplaced = []) ∧
          ∀ mode header, ∀ finding ∈ findings mode header (empty.run before).conditions,
            finding.check ≠ .attributeNotAllowed ∧
              finding.check ≠ .invalidAttributeValue) := by
  constructor
  · intro condition hc entry he
    exact .of_run distinct hc he
  · intro hd before hbefore
    have hsuited : (empty.run before).Suited := suited_empty.run stored_empty hd hbefore
    refine ⟨fun condition => hsuited.misplaced_eq_nil, ?_⟩
    intro mode header finding
    exact hsuited.check_ne

/-- A retag takes away `name`; what it brings in itself and what is set after it stays, and a value
with which an attribute counts as not given suits every tag. -/
def disciplinedRun : List Edit :=
  [.add ⟨0⟩, .setAttribute ⟨0⟩ .name (some "user"),
   .update ⟨0⟩ { tag := some .regex, attributes := some ⟨[(.type, "pcre2"), (.negate, "no")]⟩ },
   .setAttribute ⟨0⟩ .negate (some "yes"), .update ⟨0⟩ { value := some "^Failed" },
   .setAttribute ⟨0⟩ .name (some "no")]

theorem stored_since_retag_disciplinedRun :
    (added disciplinedRun).Nodup ∧ Disciplined empty disciplinedRun ∧
      (empty.run disciplinedRun).conditions =
        [⟨⟨0⟩, .regex, "^Failed", ⟨[(.type, "pcre2"), (.negate, "yes")]⟩⟩] ∧
      WrittenSinceRetag ⟨0⟩ (.type, "pcre2") disciplinedRun ∧
      WrittenSinceRetag ⟨0⟩ (.negate, "yes") disciplinedRun ∧
      (∀ condition ∈ (empty.run disciplinedRun).conditions, condition.misplaced = []) ∧
      ∀ finding ∈ findings .verbatim .default (empty.run disciplinedRun).conditions,
        finding.check ≠ .attributeNotAllowed ∧ finding.check ≠ .invalidAttributeValue := by
  have hdistinct : (added disciplinedRun).Nodup := by decide
  have hdisciplined : Disciplined empty disciplinedRun := by decide
  have hrun : (empty.run disciplinedRun).conditions =
      [⟨⟨0⟩, .regex, "^Failed", ⟨[(.type, "pcre2"), (.negate, "yes")]⟩⟩] := by
    decide
  obtain ⟨hwritten, hfree⟩ := stored_since_retag hdistinct
  obtain ⟨hmisplaced, hfindings⟩ := hfree hdisciplined disciplinedRun (List.prefix_refl _)
  rw [hrun] at hwritten
  refine ⟨hdistinct, hdisciplined, hrun, ?_, ?_, hmisplaced, hfindings .verbatim .default⟩
  · exact hwritten _ (List.mem_singleton_self _) (.type, "pcre2") (by decide)
  · exact hwritten _ (List.mem_singleton_self _) (.negate, "yes") (by decide)

end Store

end DetectionRule
