import DetectionRule.Proofs.Condition.Printing
import DetectionRule.Proofs.Rule.Adding
import DetectionRule.Proofs.Rule.Invariant
import DetectionRule.Rule.Checks
import DetectionRule.Rule.Document

/-!
# A draft from printed arguments

Each condition of a store can be printed as an argument. Read again and added one after the other to
an empty store, the arguments give the conditions back, each under a new handle. As neither
rendering nor checking depends on handles, the rule and the findings are the same. Main statement:
`rebuild_from_arguments`.
-/

namespace DetectionRule

namespace Store

variable {store : Store} {id : Handle} {conditions : List Condition} {condition : Condition}

def texts (store : Store) : List String :=
  store.conditions.map fun condition => (Argument.ofCondition condition).print

/-- Reads the text at each place and adds what it gives, under the handle minted for the place. -/
def addText (mint : Nat → Handle) (store : Store) (entry : String × Nat) :
    Except ArgumentError Store :=
  (Argument.parse entry.1).map fun argument => store.addArgument (mint entry.2) argument

def ofTexts (mint : Nat → Handle) (texts : List String) : Except ArgumentError Store :=
  texts.zipIdx.foldlM (addText mint) empty

variable {mint : Nat → Handle} {k : Nat}

theorem addText_print (fresh : mint k ∉ store.handles) (hw : condition.attributes.WellFormed)
    (hp : (Argument.ofCondition condition).Printable) :
    addText mint store ((Argument.ofCondition condition).print, k)
      = .ok ⟨store.conditions ++ [{ condition with id := mint k }]⟩ := by
  rw [addText, Argument.parse_print hp]
  show Except.ok (store.addArgument (mint k) (Argument.ofCondition condition)) = _
  rw [addArgument_eq fresh, Argument.ofCondition, hw.ofList_entries]

theorem foldlM_addText (distinct : Function.Injective mint)
    (fresh : ∀ j, k ≤ j → mint j ∉ store.handles)
    (hw : ∀ condition ∈ conditions, condition.attributes.WellFormed)
    (hp : ∀ condition ∈ conditions, (Argument.ofCondition condition).Printable) :
    ((conditions.map fun condition => (Argument.ofCondition condition).print).zipIdx k).foldlM
        (addText mint) store
      = .ok ⟨store.conditions
          ++ (conditions.zipIdx k).map fun entry => { entry.1 with id := mint entry.2 }⟩ := by
  -- By induction on the conditions that are still to come; the handles of those that are there
  -- were minted for earlier places.
  induction conditions generalizing store k with
  | nil => simp [pure, Except.pure]
  | cons condition conditions ih =>
    have hfirst := addText_print (fresh k (Nat.le_refl k)) (hw condition List.mem_cons_self)
      (hp condition List.mem_cons_self)
    have hfresh : ∀ j, k + 1 ≤ j →
        mint j ∉ handles ⟨store.conditions ++ [{ condition with id := mint k }]⟩ := by
      intro j hj hm
      rw [handles, List.map_append, List.mem_append, List.map_singleton,
        List.mem_singleton] at hm
      rcases hm with hm | hm
      · exact fresh j (by omega) hm
      · have hplace := distinct hm
        omega
    have hrest := ih hfresh (fun other ho => hw other (List.mem_cons_of_mem _ ho))
      fun other ho => hp other (List.mem_cons_of_mem _ ho)
    rw [List.map_cons, List.zipIdx_cons, List.foldlM_cons, hfirst]
    show List.foldlM _ _ _ = _
    rw [hrest, List.zipIdx_cons, List.map_cons, List.append_assoc, List.singleton_append]

end Store

/-! ### Under other handles -/

/-- The conditions under the handles minted for their places. -/
def rehandled (mint : Nat → Handle) (conditions : List Condition) : List Condition :=
  conditions.mapIdx fun i condition => { condition with id := mint i }

/-- A finding about the same condition under the handle minted for its place. -/
def Finding.rehandle (mint : Nat → Handle) : Finding → Finding
  | .condition index _ tag fault => .condition index (mint index) tag fault
  | finding => finding

variable {mint : Nat → Handle} {mode : TextMode} {header : Header} {conditions : List Condition}

theorem Finding.rehandle_keeps (mint : Nat → Handle) (finding : Finding) :
    (finding.rehandle mint).check = finding.check ∧
      (finding.rehandle mint).severity = finding.severity ∧
      (finding.rehandle mint).message = finding.message ∧
      (finding.rehandle mint).path = finding.path := by
  cases finding <;> exact ⟨rfl, rfl, rfl, rfl⟩

theorem render_rehandled :
    render mode header (rehandled mint conditions) = render mode header conditions := by
  have helements : (rehandled mint conditions).map
        (fun condition => (Element.ofCondition condition).render mode)
      = conditions.map fun condition => (Element.ofCondition condition).render mode := by
    apply List.ext_getElem?
    intro i
    simp only [rehandled, List.getElem?_map, List.getElem?_mapIdx, Option.map_map]
    rfl
  unfold render
  rw [helements]

theorem findings_rehandled :
    findings mode header (rehandled mint conditions)
      = (findings mode header conditions).map (Finding.rehandle mint) := by
  have hplaces : (rehandled mint conditions).zipIdx
      = conditions.zipIdx.map fun entry => ({ entry.1 with id := mint entry.2 }, entry.2) := by
    apply List.ext_getElem?
    intro i
    simp only [rehandled, List.getElem?_zipIdx, List.getElem?_map, List.getElem?_mapIdx,
      Option.map_map, Nat.zero_add]
    rfl
  have hempty : (rehandled mint conditions).isEmpty = conditions.isEmpty := by
    cases conditions <;> simp [rehandled]
  rw [findings, findings, List.map_append, List.map_append, hplaces, hempty, List.flatMap_map,
    List.map_flatMap, List.map_map]
  congr 2
  · cases conditions <;> rfl
  · funext entry
    rw [Condition.findings, Condition.findings, List.map_map]
    rfl

theorem rebuild_from_arguments {edits : List Edit} {mint : Nat → Handle}
    (distinct : Function.Injective mint)
    (listTexts : ∀ condition ∈ (Store.empty.run edits).conditions,
      ∀ entry ∈ condition.attributes.entries, Argument.IsListText entry.2) :
    ∃ rebuilt, Store.ofTexts mint (Store.empty.run edits).texts = .ok rebuilt ∧
      rebuilt.conditions = rehandled mint (Store.empty.run edits).conditions ∧
      ∀ mode header,
        render mode header rebuilt.conditions
            = render mode header (Store.empty.run edits).conditions ∧
          findings mode header rebuilt.conditions
            = (findings mode header (Store.empty.run edits).conditions).map
                (Finding.rehandle mint) ∧
          ∀ finding ∈ findings mode header (Store.empty.run edits).conditions,
            (finding.rehandle mint).check = finding.check ∧
              (finding.rehandle mint).severity = finding.severity ∧
              (finding.rehandle mint).message = finding.message ∧
              (finding.rehandle mint).path = finding.path := by
  refine ⟨⟨rehandled mint (Store.empty.run edits).conditions⟩, ?_, rfl, ?_⟩
  · have hfresh : ∀ j, 0 ≤ j → mint j ∉ Store.empty.handles := fun _ _ => List.not_mem_nil
    have hfold := Store.foldlM_addText distinct hfresh (Store.stored_empty.run edits) listTexts
    rw [Store.ofTexts, Store.texts, hfold, rehandled, List.mapIdx_eq_zipIdx_map]
    rfl
  · intro mode header
    exact ⟨render_rehandled, findings_rehandled, fun finding _ => finding.rehandle_keeps mint⟩

/-- Signs of the grammar in an attribute text and in a value, and a condition with neither. -/
def printedRun : List Edit :=
  [.add ⟨0⟩, .update ⟨0⟩ { tag := some .regex, value := some "a=[b]" },
   .setAttribute ⟨0⟩ .type (some "pcre2"), .setAttribute ⟨0⟩ .name (some "x=[y"),
   .add ⟨1⟩, .update ⟨1⟩ { tag := some .list }]

theorem rebuild_from_arguments_printedRun :
    Function.Injective (fun i => Handle.mk (i + 5)) ∧
      (∀ condition ∈ (Store.empty.run printedRun).conditions,
        ∀ entry ∈ condition.attributes.entries, Argument.IsListText entry.2) ∧
      (Store.empty.run printedRun).texts = ["regex[type=pcre2,name=x=[y]=a=[b]", "list"] ∧
      ∃ rebuilt,
        Store.ofTexts (fun i => ⟨i + 5⟩) ["regex[type=pcre2,name=x=[y]=a=[b]", "list"]
            = .ok rebuilt ∧
          rebuilt.conditions =
            [⟨⟨5⟩, .regex, "a=[b]", ⟨[(.type, "pcre2"), (.name, "x=[y")]⟩⟩,
             ⟨⟨6⟩, .list, "", .empty⟩] := by
  have hdistinct : Function.Injective (fun i => Handle.mk (i + 5)) := by
    intro i j h
    simpa using h
  have hlist : ∀ condition ∈ (Store.empty.run printedRun).conditions,
      ∀ entry ∈ condition.attributes.entries, Argument.IsListText entry.2 := by
    decide
  have htexts : (Store.empty.run printedRun).texts
      = ["regex[type=pcre2,name=x=[y]=a=[b]", "list"] := by
    decide
  obtain ⟨rebuilt, hread, hconditions, -⟩ := rebuild_from_arguments hdistinct hlist
  rw [htexts] at hread
  exact ⟨hdistinct, hlist, htexts, rebuilt, hread, hconditions⟩

end DetectionRule
