import DetectionRule.Proofs.Rule.History
import DetectionRule.Session

/-!
# Steps that leave no trace

A step is idle when it is refused for what it says, when it means a condition that the draft lacks,
or when its patch is empty. An idle step leaves the session as it is, so that a session with one put
in anywhere gives the same answers and the same handles to all other steps. A draft lacks the
conditions whose handles were not given yet and those that were removed. Main statement:
`idle_step_leaves_no_trace`.
-/

namespace DetectionRule

/-- The patch names a tag or an attribute that there is not. -/
def PatchText.NamesUnknown (text : PatchText) : Prop :=
  (∃ name ∈ text.tag, ∀ tag : Tag, tag.text ≠ name) ∨
    ∃ pairs ∈ text.attributes, ∃ pair ∈ pairs, ∀ attr : Attribute, attr.text ≠ pair.1

theorem Tag.read_of_unknown {name : String} (h : ∀ tag : Tag, tag.text ≠ name) :
    Tag.read name = .error (.unknownTag name) := by
  rw [read, ofText?_eq_none_iff.2 h]

theorem Attribute.read_of_unknown {name : String} (h : ∀ attr : Attribute, attr.text ≠ name) :
    Attribute.read name = .error (.unknownAttribute name) := by
  rw [read, ofText?_eq_none_iff.2 h]

theorem exists_readPairs_eq_error {pairs : List (String × String)} {pair : String × String}
    (hpair : pair ∈ pairs) (h : ∀ attr : Attribute, attr.text ≠ pair.1) :
    ∃ e, readPairs pairs = .error e := by
  induction pairs with
  | nil => cases hpair
  | cons first pairs ih =>
    obtain ⟨name, value⟩ := first
    rw [readPairs]
    cases hread : Attribute.read name with
    | error e => exact ⟨e, rfl⟩
    | ok attr =>
      rcases List.mem_cons.1 hpair with rfl | hpair
      · rw [Attribute.read_of_unknown h] at hread
        cases hread
      · obtain ⟨e, he⟩ := ih hpair
        rw [he]
        exact ⟨e, rfl⟩

theorem PatchText.exists_read_eq_error {text : PatchText} (h : text.NamesUnknown) :
    ∃ e, text.read = .error e := by
  cases htag : text.tag.mapM Tag.read with
  | error e =>
    refine ⟨e, ?_⟩
    rw [read, htag]
    rfl
  | ok tag =>
    cases hattributes : text.attributes.mapM Attributes.read with
    | error e =>
      refine ⟨e, ?_⟩
      rw [read, htag, hattributes]
      rfl
    | ok attributes =>
      rcases h with ⟨name, hname, hunknown⟩ | ⟨pairs, hpairs, pair, hpair, hunknown⟩
      · have hread : Tag.read name = .error (.unknownTag name) := Tag.read_of_unknown hunknown
        rw [Option.mem_def.1 hname, Option.mapM_some, hread] at htag
        cases htag
      · obtain ⟨e, he⟩ := exists_readPairs_eq_error hpair hunknown
        rw [Option.mem_def.1 hpairs, Option.mapM_some, Attributes.read, he] at hattributes
        cases hattributes

theorem changeFirst_eq_self {α : Type} {p : α → Bool} {f : α → α} {as : List α}
    (h : ∀ a ∈ as, p a = true → f a = a) : changeFirst p f as = as := by
  induction as with
  | nil => rfl
  | cons a as ih =>
    rw [changeFirst]
    split
    · next hp => rw [h a List.mem_cons_self hp]
    · rw [ih fun b hb => h b (List.mem_cons_of_mem _ hb)]

theorem Condition.amend_empty (condition : Condition) : condition.amend {} = condition := rfl

namespace Store

variable {store : Store} {id : Handle}

theorem update_empty (store : Store) (id : Handle) : store.update id {} = store :=
  congrArg Store.mk (changeFirst_eq_self fun condition _ _ => condition.amend_empty)

/-- An edit of a condition that is not there; an addition is no such edit. -/
theorem apply_of_not_mem_handles {edit : Edit} (hadd : edit.added? = none)
    (h : edit.handle ∉ store.handles) : store.apply edit = store := by
  have hothers : ∀ condition ∈ store.conditions, condition.id ≠ edit.handle :=
    fun condition hc e => h (e ▸ List.mem_map_of_mem hc)
  cases hchange : edit.change? with
  | some made =>
    rw [apply_of_change store hchange, changeFirst_eq_self]
    intro condition hc hid
    exact absurd (of_decide_eq_true hid) (hothers condition hc)
  | none =>
    cases edit with
    | add id => cases hadd
    | update id patch => cases hchange
    | setAttribute id attr value => cases hchange
    | remove id =>
      refine congrArg Store.mk (List.filter_eq_self.2 fun condition hc => ?_)
      simp [show condition.id ≠ id from hothers condition hc]

theorem handles_run_setAttribute (id : Handle) (pairs : List (Attribute × String))
    (store : Store) :
    (store.run (pairs.map fun pair => .setAttribute id pair.1 (some pair.2))).handles
      = store.handles := by
  induction pairs generalizing store with
  | nil => rfl
  | cons pair pairs ih =>
    rw [List.map_cons, run_cons, ih]
    exact handles_setAttribute _ _

theorem handles_addArgument (store : Store) (id : Handle) (argument : Argument) :
    (store.addArgument id argument).handles = store.handles ++ [id] := by
  rw [addArgument, Argument.edits, run_cons, run_cons, handles_run_setAttribute]
  exact (handles_update _).trans handles_add

end Store

namespace Session

variable {session : Session} {id : Handle} {steps : List Step}

/-! ### Idle steps -/

/-- The draft has no condition under the handle. -/
def Lacks (session : Session) (id : Option Handle) : Prop :=
  ∀ condition ∈ session.draft.conditions, id ≠ some condition.id

/-- The step is refused for what it says, means no condition of the draft, or has nothing to
change. -/
inductive Idle (session : Session) : Step → Prop
  | unreadable {text : String} (h : ∀ argument, Argument.parse text ≠ .ok argument) :
      Idle session (.apply text)
  | unknownName {id : Option Handle} {text : PatchText} (h : text.NamesUnknown) :
      Idle session (.update id text)
  | unknownAttribute {id : Option Handle} {name : String} {value : Option String}
      (h : ∀ attr : Attribute, attr.text ≠ name) : Idle session (.setAttribute id name value)
  | lackingUpdate {id : Option Handle} {text : PatchText} (h : session.Lacks id) :
      Idle session (.update id text)
  | lackingAttribute {id : Option Handle} {name : String} {value : Option String}
      (h : session.Lacks id) : Idle session (.setAttribute id name value)
  | lackingRemoval {id : Option Handle} (h : session.Lacks id) : Idle session (.remove id)
  | emptyPatch {id : Option Handle} : Idle session (.update id {})

theorem lacks_some_iff : session.Lacks (some id) ↔ id ∉ session.store.handles := by
  rw [Store.handles, List.mem_map, not_exists]
  constructor
  · rintro h condition ⟨hc, rfl⟩
    exact h condition hc rfl
  · intro h condition hc heq
    exact h condition ⟨hc, (Option.some.inj heq).symm⟩

theorem edit_eq_self {id : Option Handle} {change : Store → Handle → Store}
    (h : ∀ handle ∈ id, change session.store handle = session.store) :
    session.edit id change = session := by
  cases id with
  | none => rfl
  | some handle =>
    rw [edit, h handle rfl]
    rfl

theorem edit_of_lacks {id : Option Handle} (make : Handle → Edit) (h : session.Lacks id)
    (hmake : ∀ handle, (make handle).added? = none ∧ (make handle).handle = handle) :
    session.edit id (fun store handle => store.apply (make handle)) = session := by
  apply edit_eq_self
  rintro handle rfl
  obtain ⟨hadd, hhandle⟩ := hmake handle
  apply Store.apply_of_not_mem_handles hadd
  rw [hhandle]
  exact lacks_some_iff.1 h

theorem step_of_idle {step : Step} (h : session.Idle step) : (session.step step).1 = session := by
  cases h with
  | @unreadable text h =>
    cases hparse : Argument.parse text with
    | error e => simp only [Session.step, hparse]
    | ok argument => exact absurd hparse (h argument)
  | unknownName h =>
    obtain ⟨e, he⟩ := PatchText.exists_read_eq_error h
    simp only [Session.step, he]
  | unknownAttribute h => simp only [Session.step, Attribute.read_of_unknown h]
  | @lackingUpdate id text h =>
    cases hread : text.read with
    | error e => simp only [Session.step, hread]
    | ok patch =>
      simp only [Session.step, hread]
      exact edit_of_lacks (fun handle => .update handle patch) h fun handle => ⟨rfl, rfl⟩
  | @lackingAttribute id name value h =>
    cases hread : Attribute.read name with
    | error e => simp only [Session.step, hread]
    | ok attr =>
      simp only [Session.step, hread]
      exact edit_of_lacks (fun handle => .setAttribute handle attr value) h fun handle =>
        ⟨rfl, rfl⟩
  | lackingRemoval h =>
    exact edit_of_lacks .remove h fun handle => ⟨rfl, rfl⟩
  | @emptyPatch id =>
    have hread : PatchText.read {} = .ok {} := rfl
    simp only [Session.step, hread]
    exact edit_eq_self fun handle _ => Store.update_empty _ _

/-! ### Handles -/

theorem handles_step (session : Session) (step : Step) :
    ((session.step step).1.given = session.given + 1 ∧
        (session.step step).1.store.handles = session.store.handles ++ [session.next]) ∨
      ((session.step step).1.given = session.given ∧
        ((session.step step).1.store.handles = session.store.handles ∨
          ∃ id, step = .remove (some id) ∧ (session.step step).1.store.handles
            = session.store.handles.filter fun other => !decide (other = id))) := by
  cases step with
  | add => exact .inl ⟨rfl, Store.handles_add⟩
  | apply text =>
    cases hparse : Argument.parse text with
    | error e =>
      simp only [Session.step, hparse]
      exact .inr ⟨trivial, .inl trivial⟩
    | ok argument =>
      simp only [Session.step, hparse]
      exact .inl ⟨rfl, Store.handles_addArgument _ _ _⟩
  | update id text =>
    cases hread : text.read with
    | error e =>
      simp only [Session.step, hread]
      exact .inr ⟨trivial, .inl trivial⟩
    | ok patch =>
      simp only [Session.step, hread]
      cases id with
      | none => exact .inr ⟨rfl, .inl rfl⟩
      | some id => exact .inr ⟨rfl, .inl (Store.handles_update _)⟩
  | setAttribute id name value =>
    cases hread : Attribute.read name with
    | error e =>
      simp only [Session.step, hread]
      exact .inr ⟨trivial, .inl trivial⟩
    | ok attr =>
      simp only [Session.step, hread]
      cases id with
      | none => exact .inr ⟨rfl, .inl rfl⟩
      | some id => exact .inr ⟨rfl, .inl (Store.handles_setAttribute _ _)⟩
  | remove id =>
    cases id with
    | none => exact .inr ⟨rfl, .inl rfl⟩
    | some id => exact .inr ⟨rfl, .inr ⟨id, rfl, Store.handles_remove⟩⟩
  | validate =>
    rw [Session.step]
    split <;> exact .inr ⟨rfl, .inl rfl⟩
  | header | get | position | size | misplaced | render | findings | pretty | save | isSaved =>
    exact .inr ⟨rfl, .inl rfl⟩

/-- No handle of the draft is still to be given. -/
def Bounded (session : Session) : Prop := ∀ id ∈ session.store.handles, id.index < session.given

theorem given_le_step (session : Session) (step : Step) :
    session.given ≤ (session.step step).1.given := by
  rcases handles_step session step with ⟨hgiven, -⟩ | ⟨hgiven, -⟩ <;> omega

theorem mem_handles_of_step {step : Step} (h : id ∈ (session.step step).1.store.handles) :
    id ∈ session.store.handles ∨
      (id.index = session.given ∧ (session.step step).1.given = session.given + 1) := by
  rcases handles_step session step with ⟨hgiven, hhandles⟩ | ⟨-, hhandles | ⟨other, -, hhandles⟩⟩
  · rw [hhandles, List.mem_append, List.mem_singleton] at h
    rcases h with h | rfl
    · exact .inl h
    · exact .inr ⟨rfl, hgiven⟩
  · exact .inl (hhandles ▸ h)
  · rw [hhandles] at h
    exact .inl (List.mem_of_mem_filter h)

theorem bounded_step (h : session.Bounded) (step : Step) : (session.step step).1.Bounded := by
  intro id hid
  have hle := given_le_step session step
  rcases mem_handles_of_step hid with hold | ⟨hindex, hgiven⟩
  · have hlt := h id hold
    omega
  · omega

theorem not_mem_handles_step (h : id ∉ session.store.handles) (hgiven : id.index < session.given)
    (step : Step) : id ∉ (session.step step).1.store.handles := by
  intro hid
  rcases mem_handles_of_step hid with hold | ⟨hindex, -⟩
  · exact h hold
  · omega

/-! ### Runs -/

theorem run_cons (session : Session) (step : Step) (steps : List Step) :
    session.run (step :: steps) =
      (((session.step step).1.run steps).1,
        (session.step step).2 :: ((session.step step).1.run steps).2) := rfl

theorem run_append (session : Session) (before after : List Step) :
    session.run (before ++ after) =
      (((session.run before).1.run after).1,
        (session.run before).2 ++ ((session.run before).1.run after).2) := by
  induction before generalizing session with
  | nil => rfl
  | cons step before ih =>
    rw [List.cons_append, run_cons, run_cons, ih]
    rfl

theorem length_answers (session : Session) (steps : List Step) :
    (session.run steps).2.length = steps.length := by
  induction steps generalizing session with
  | nil => rfl
  | cons step steps ih => rw [run_cons, List.length_cons, ih, List.length_cons]

theorem bounded_run (h : session.Bounded) (steps : List Step) : (session.run steps).1.Bounded := by
  induction steps generalizing session with
  | nil => exact h
  | cons step steps ih => exact ih (bounded_step h step)

theorem not_mem_handles_run (h : id ∉ session.store.handles) (hgiven : id.index < session.given)
    (steps : List Step) : id ∉ (session.run steps).1.store.handles := by
  induction steps generalizing session with
  | nil => exact h
  | cons step steps ih =>
    have hlt : id.index < (session.step step).1.given := by
      have hle := given_le_step session step
      omega
    exact ih (not_mem_handles_step h hgiven step) hlt

theorem bounded_start (header : Header) : (start header).Bounded := fun _ hid => nomatch hid

/-- The steps remove the condition of the handle from the draft. -/
def Removes (header : Header) (steps : List Step) (id : Handle) : Prop :=
  ∃ first last, steps = first ++ .remove (some id) :: last ∧
    id ∈ ((start header).run first).1.store.handles

theorem not_given_or_removes {header : Header}
    (h : id ∉ ((start header).run steps).1.store.handles) :
    ((start header).run steps).1.given ≤ id.index ∨ Removes header steps id := by
  -- By induction on the steps from the last: a handle that has been given is still there before
  -- the last step, which then removes it, or was removed by an earlier one.
  induction steps using List.reverseRecOn with
  | nil => exact .inl (Nat.zero_le _)
  | append_singleton steps step ih =>
    have hlast : ((start header).run (steps ++ [step])).1
        = (((start header).run steps).1.step step).1 := by
      rw [run_append]
      rfl
    rw [hlast] at h ⊢
    by_cases hbefore : id ∈ ((start header).run steps).1.store.handles
    · rcases handles_step ((start header).run steps).1 step with
        ⟨-, hhandles⟩ | ⟨-, hhandles | ⟨other, rfl, hhandles⟩⟩
      · rw [hhandles] at h
        exact absurd (List.mem_append_left _ hbefore) h
      · rw [hhandles] at h
        exact absurd hbefore h
      · have hsame : id = other := by
          by_contra hne
          rw [hhandles, List.mem_filter] at h
          exact h ⟨hbefore, by simp [hne]⟩
        subst hsame
        exact .inr ⟨steps, [], rfl, hbefore⟩
    · rcases ih hbefore with hgiven | ⟨first, last, rfl, hthere⟩
      · rcases handles_step ((start header).run steps).1 step with ⟨hnext, hhandles⟩ | ⟨hsame, -⟩
        · have hne : id.index ≠ ((start header).run steps).1.given := by
            intro heq
            rw [hhandles, List.mem_append, List.mem_singleton] at h
            exact h (.inr (congrArg Handle.mk heq))
          exact .inl (by omega)
        · exact .inl (hsame ▸ hgiven)
      · exact .inr ⟨first, last ++ [step], by simp, hthere⟩

theorem not_mem_handles_of_removes {header : Header} (h : Removes header steps id) :
    id ∉ ((start header).run steps).1.store.handles := by
  obtain ⟨first, last, rfl, hthere⟩ := h
  have hbounded := bounded_run (bounded_start header) first
  rw [run_append]
  generalize ((start header).run first).1 = session at hthere hbounded ⊢
  have hgone : id ∉ (session.step (.remove (some id))).1.store.handles := by
    show id ∉ (session.store.remove id).handles
    rw [Store.handles_remove, List.mem_filter]
    simp
  exact not_mem_handles_run hgone (hbounded id hthere) last

theorem lacks_run_iff (header : Header) (steps : List Step) (id : Handle) :
    ((start header).run steps).1.Lacks (some id) ↔
      ((start header).run steps).1.given ≤ id.index ∨ Removes header steps id := by
  rw [lacks_some_iff]
  constructor
  · exact not_given_or_removes
  · rintro (hgiven | hremoved)
    · intro hthere
      have hlt := bounded_run (bounded_start header) steps id hthere
      omega
    · exact not_mem_handles_of_removes hremoved

/-- Idle steps put in anywhere. Conditions that a draft lacks are those not given yet and those
removed before, apart from none at all. -/
theorem idle_step_leaves_no_trace (header : Header) (before after : List Step) {step : Step}
    (h : ((start header).run before).1.Idle step) :
    ((start header).run (before ++ step :: after)).1 = ((start header).run (before ++ after)).1 ∧
      ((start header).run (before ++ step :: after)).2.eraseIdx before.length
        = ((start header).run (before ++ after)).2 ∧
      ((start header).run before).1.Lacks none ∧
      ∀ id, ((start header).run before).1.Lacks (some id) ↔
        ((start header).run before).1.given ≤ id.index ∨ Removes header before id := by
  have hsame := step_of_idle h
  have hlength := length_answers (start header) before
  rw [run_append, run_append, run_cons, hsame]
  refine ⟨rfl, ?_, fun _ _ => nofun, lacks_run_iff header before⟩
  rw [List.eraseIdx_append_of_length_le (Nat.le_of_eq hlength), hlength, Nat.sub_self]
  rfl

/-- The first of two conditions is taken away. -/
def shortenedRun : List Step := [.add, .apply "regex[negate=yes]=^Failed", .remove (some ⟨0⟩)]

theorem idle_step_leaves_no_trace_shortenedRun :
    ((start {}).run shortenedRun).1.Idle
        (.update (some ⟨0⟩) { tag := some "match", value := some "root" }) ∧
      ((start {}).run shortenedRun).1.Idle (.apply "regex[colour=red]") ∧
      ((start {}).run (shortenedRun ++ [.apply "regex[colour=red]", .add])).1.draft.conditions
        = [⟨⟨1⟩, .regex, "^Failed", ⟨[(.negate, "yes")]⟩⟩, ⟨⟨2⟩, .field, "", .empty⟩] ∧
      ((start {}).run (shortenedRun ++
          [.update (some ⟨0⟩) { tag := some "match", value := some "root" }, .size])).2.eraseIdx 3
        = ((start {}).run (shortenedRun ++ [.size])).2 := by
  have hremoved : ((start {}).run shortenedRun).1.Idle
      (.update (some ⟨0⟩) { tag := some "match", value := some "root" }) :=
    .lackingUpdate (lacks_some_iff.2 (by decide))
  have hunread : ((start {}).run shortenedRun).1.Idle (.apply "regex[colour=red]") := by
    have herror : Argument.parse "regex[colour=red]"
        = .error (.malformed "regex[colour=red]" (.unknownAttribute "colour")) := by
      decide
    exact .unreadable (by rw [herror]; nofun)
  refine ⟨hremoved, hunread, ?_, (idle_step_leaves_no_trace {} shortenedRun [.size] hremoved).2.1⟩
  rw [(idle_step_leaves_no_trace {} shortenedRun [.add] hunread).1]
  decide

end Session

end DetectionRule
