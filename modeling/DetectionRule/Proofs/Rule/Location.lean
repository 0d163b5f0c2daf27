import DetectionRule.Proofs.Json.Pointer
import DetectionRule.Proofs.Json.Reader
import DetectionRule.Proofs.Rule.Finding
import DetectionRule.Proofs.Rule.Invariant
import DetectionRule.Rule.Draft

/-!
# Where findings point

The path of a finding is a pointer into the document of the draft. It leads to the value that the
finding is about (`Finding.Concerns`): a field of the header, the list of conditions, the content of
a condition or an attribute stored in it. A path that leads on from a condition belongs to a finding
that names the condition there. Main statement: `finding_path_resolves`.
-/

namespace DetectionRule

variable {mode : TextMode} {header : Header} {condition : Condition} {draft : Draft}
  {attr : Attribute} {steps : List String}

def HeaderFault.Concerns : HeaderFault → Json → Prop
  | nonPositiveId id, value => value = .number id
  | levelOutOfRange level, value => value = .number level
  | zeroFrequency, value | zeroTimeframe, value => value = .number 0
  | frequencyAlone, value | timeframeAlone, value => ∃ count : Nat, value = .number count

def ConditionFault.Concerns : ConditionFault → Json → Prop
  | misplacedAttribute _, value => ∃ text, value = .text text
  | invalidValue _ text, value => value = .text text
  | markupInValue, value | markupInAttribute _, value =>
    ∃ text, value = .text text ∧ Markup.occursIn text = true
  | emptyValue, value => value = .text ""

/-- The value is the one that the finding speaks of. -/
def Finding.Concerns : Finding → Json → Prop
  | .header fault, value => fault.Concerns value
  | .noConditions, value => value = .array []
  | .condition _ _ _ fault, value => fault.Concerns value

theorem Header.exists_child? {fault : HeaderFault} (h : fault.Holds header) :
    ∃ value, header.toJson.child? fault.field = some value ∧ fault.Concerns value := by
  obtain ⟨id, level, frequency, timeframe⟩ := header
  cases fault with
  | nonPositiveId given =>
    obtain ⟨rfl, -⟩ := h
    exact ⟨_, rfl, rfl⟩
  | levelOutOfRange given =>
    obtain ⟨rfl, -⟩ := h
    exact ⟨_, rfl, rfl⟩
  | zeroFrequency =>
    obtain rfl : frequency = some 0 := h
    exact ⟨_, rfl, rfl⟩
  | zeroTimeframe =>
    obtain rfl : timeframe = some 0 := h
    cases frequency <;> exact ⟨_, rfl, rfl⟩
  | frequencyAlone =>
    obtain ⟨count, rfl⟩ := Option.ne_none_iff_exists'.1 h.1
    exact ⟨_, rfl, count, rfl⟩
  | timeframeAlone =>
    obtain rfl : frequency = none := h.1
    obtain ⟨count, rfl⟩ := Option.ne_none_iff_exists'.1 h.2
    exact ⟨_, rfl, count, rfl⟩

theorem Attributes.child?_toJson (stored : Attributes) (attr : Attribute) :
    stored.toJson.child? attr.text = (stored.get? attr).map .text := by
  obtain ⟨entries⟩ := stored
  show (entries.map fun entry => (entry.1.text, Json.text entry.2)).lookup attr.text
    = (entries.lookup attr).map .text
  induction entries with
  | nil => rfl
  | cons entry entries ih =>
    rw [List.map_cons, List.lookup_cons, List.lookup_cons]
    by_cases h : attr = entry.1
    · simp [h]
    · have htext : (attr.text == entry.1.text) = false :=
        beq_false_of_ne fun e => h (Attribute.text_inj.1 e)
      simp [htext, beq_false_of_ne h, ih]

theorem Condition.descend?_attribute (condition : Condition) (attr : Attribute) :
    condition.toJson.descend? ["attributes", attr.text]
      = (condition.attributes.get? attr).map .text := by
  have hattributes : condition.toJson.child? "attributes" = some condition.attributes.toJson := rfl
  rw [Json.descend?_cons hattributes, ← Attributes.child?_toJson, Json.descend?_singleton]

theorem Condition.exists_descend? {fault : ConditionFault} (h : fault ∈ condition.faults mode)
    (hstored : condition.attributes.WellFormed) :
    ∃ value, condition.toJson.descend? fault.steps = some value ∧ fault.Concerns value := by
  have hvalue : condition.toJson.descend? ["value"] = some (.text condition.value) := rfl
  have hentry : ∀ {attr value}, (attr, value) ∈ condition.attributes.entries →
      condition.toJson.descend? ["attributes", attr.text] = some (.text value) := by
    intro attr value hmem
    rw [descend?_attribute, Attributes.get?,
      (Attributes.lookup_eq_some_iff_mem hstored.distinct).2 hmem]
    rfl
  cases fault with
  | misplacedAttribute attr =>
    have hkey := (mem_misplaced.1 (misplacedAttribute_mem_faults.1 h)).1
    obtain ⟨⟨_, value⟩, hmem, rfl⟩ := List.mem_map.1 hkey
    exact ⟨_, hentry hmem, value, rfl⟩
  | invalidValue attr value =>
    have hmem := (mem_invalidAttributes.1 (invalidValue_mem_faults.1 h)).1
    exact ⟨_, hentry hmem, rfl⟩
  | markupInValue => exact ⟨_, hvalue, _, rfl, (markupInValue_mem_faults.1 h).2⟩
  | markupInAttribute attr =>
    obtain ⟨-, value, hmem, -, hmarkup⟩ := markupInAttribute_mem_faults.1 h
    exact ⟨_, hentry hmem, value, rfl, hmarkup⟩
  | emptyValue =>
    have hempty : condition.value = "" := emptyValue_mem_faults.1 h
    exact ⟨_, hvalue, congrArg Json.text hempty⟩

/-! ### Places in a draft -/

theorem Draft.descend?_condition {i : Nat} (h : draft.conditions[i]? = some condition)
    (steps : List String) :
    draft.toJson.descend? ("conditions" :: Text.Decimal.natural i :: steps)
      = condition.toJson.descend? steps := by
  have hlist : draft.toJson.child? "conditions"
      = some (.array (draft.conditions.map Condition.toJson)) := rfl
  have hitem : (Json.array (draft.conditions.map Condition.toJson)).child? (Text.Decimal.natural i)
      = some condition.toJson := by
    rw [Json.child?_array, List.getElem?_map, h]
    rfl
  rw [Json.descend?_cons hlist, Json.descend?_cons hitem]

theorem Draft.at?_join (draft : Draft) (h : ∀ step ∈ steps, IsPathStep step) :
    draft.toJson.at? (String.join (steps.map fun step => "/" ++ step))
      = draft.toJson.descend? steps :=
  Json.at?_join _ fun step hs => ⟨(h step hs).not_mem (by decide), (h step hs).not_mem (by decide)⟩

theorem Draft.at?_id {i : Nat} (h : draft.conditions[i]? = some condition) :
    draft.toJson.at? ("/conditions/" ++ Text.Decimal.natural i ++ "/id")
      = some (.text condition.id.text) := by
  have hjoin : "/conditions/" ++ Text.Decimal.natural i ++ "/id" = String.join
      (["conditions", Text.Decimal.natural i, "id"].map fun step => "/" ++ step) := by
    apply String.toList_injective
    simp
  have hsteps : ∀ step ∈ ["conditions", Text.Decimal.natural i, "id"], IsPathStep step := by
    simp [Text.Decimal.isPathStep_natural, show IsPathStep "conditions" by decide,
      show IsPathStep "id" by decide]
  rw [hjoin, draft.at?_join hsteps, descend?_condition h]
  rfl

theorem Finding.exists_at?_path {finding : Finding} (h : finding ∈ draft.findings mode)
    (hstored : draft.store.Stored) :
    ∃ value, draft.toJson.at? finding.path = some value ∧ finding.Concerns value := by
  rw [path, draft.at?_join finding.isPathStep_of_mem_steps]
  rcases mem_findings.1 h with ⟨fault, hfault, rfl⟩ | ⟨hnone, rfl⟩ |
    ⟨i, condition, hplace, fault, hfault, rfl⟩
  · obtain ⟨value, hchild, hconcerns⟩ := Header.exists_child? (Header.mem_faults.1 hfault)
    have hheader : draft.toJson.child? "header" = some draft.header.toJson := rfl
    refine ⟨value, ?_, hconcerns⟩
    rw [steps, Json.descend?_cons hheader, Json.descend?_cons hchild, Json.descend?_nil]
  · refine ⟨_, rfl, ?_⟩
    show Json.array (draft.conditions.map Condition.toJson) = .array []
    rw [hnone, List.map_nil]
  · rw [steps, Draft.descend?_condition hplace]
    exact Condition.exists_descend? hfault (hstored condition (List.mem_of_getElem? hplace))

/-- In the document of every draft that edits can make. -/
theorem finding_path_resolves (edits : List Edit) (header : Header) {mode : TextMode}
    {finding : Finding} (h : finding ∈ findings mode header (Store.empty.run edits).conditions) :
    ∃ document, Json.read (Draft.mk header (Store.empty.run edits)).toJson.pretty = some document ∧
      (∃ value, document.at? finding.path = some value ∧ finding.Concerns value) ∧
      (finding.condition?.isSome = true ↔ ∃ (i : Nat) (place : String),
        finding.path = "/conditions/" ++ Text.Decimal.natural i ++ "/" ++ place) ∧
      ∀ (i : Nat) (place : String),
        finding.path = "/conditions/" ++ Text.Decimal.natural i ++ "/" ++ place →
        ∃ id, finding.condition? = some id ∧
          document.at? ("/conditions/" ++ Text.Decimal.natural i ++ "/id") = some (.text id.text) := by
  have hdocument := Json.read_pretty (Draft.mk header (Store.empty.run edits)).toJson
  refine ⟨_, hdocument, Finding.exists_at?_path h (Store.stored_empty.run edits), ⟨?_, ?_⟩, ?_⟩
  · intro hnamed
    obtain ⟨id, hid⟩ := Option.isSome_iff_exists.1 hnamed
    obtain ⟨i, place, -, hpath, -⟩ := Finding.place_of_condition? h hid
    exact ⟨i, place, hpath⟩
  · rintro ⟨i, place, hpath⟩
    obtain ⟨id, tag, fault, rfl⟩ := Finding.eq_condition_of_path hpath
    rfl
  · intro i place hpath
    obtain ⟨id, tag, fault, rfl⟩ := Finding.eq_condition_of_path hpath
    obtain ⟨condition, hplace, rfl, -, -⟩ := condition_mem_findings.1 h
    exact ⟨condition.id, rfl, Draft.at?_id hplace⟩

/-- The first of two conditions is taken away, so that the other moves to its place. -/
def movedRun : List Edit :=
  [.add ⟨0⟩, .add ⟨1⟩, .update ⟨1⟩ { tag := some .regex, value := some "x<y" },
   .setAttribute ⟨1⟩ .negate (some "yes"), .setAttribute ⟨1⟩ .type (some "glob"), .remove ⟨0⟩]

theorem finding_path_resolves_movedRun :
    .condition 0 ⟨1⟩ .regex (.invalidValue .type "glob")
        ∈ findings .escaped {} (Store.empty.run movedRun).conditions ∧
      ∃ document, Json.read (Draft.mk {} (Store.empty.run movedRun)).toJson.pretty = some document ∧
        document.at? "/conditions/0/attributes/type" = some (.text "glob") ∧
        document.at? "/conditions/0/id" = some (.text "#1") := by
  have hfound : .condition 0 ⟨1⟩ .regex (.invalidValue .type "glob")
      ∈ findings .escaped {} (Store.empty.run movedRun).conditions := by
    decide
  have hpath : (Finding.condition 0 ⟨1⟩ .regex (.invalidValue .type "glob")).path
      = "/conditions/" ++ Text.Decimal.natural 0 ++ "/" ++ "attributes/type" := by
    decide
  obtain ⟨document, hread, ⟨_, hvalue, rfl⟩, -, hnamed⟩ := finding_path_resolves movedRun {} hfound
  obtain ⟨_, ⟨⟩, hid⟩ := hnamed 0 "attributes/type" hpath
  exact ⟨hfound, document, hread, hvalue, hid⟩

end DetectionRule
