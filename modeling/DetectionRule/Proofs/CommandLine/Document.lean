import DetectionRule.Proofs.CommandLine.Arguments
import DetectionRule.Proofs.CommandLine.Outcome
import DetectionRule.Proofs.Json.Members
import DetectionRule.Proofs.Json.Reader
import DetectionRule.Proofs.Rule.DraftText
import DetectionRule.Proofs.Rule.Finding

/-!
# The JSON document of a run

The document is an object in the order of its names, and so are the header, the conditions with
their attributes, and the findings in it. No member is lost to that order, since no name is there
twice: the attributes stored for a condition are distinct. The text of the rule is the one that the
run prints by itself where no document is asked for. Main statement: `run_json_document`.
-/

namespace DetectionRule

/-- Counts that are absent are left out. -/
def Header.ShownBy (header : Header) (value : Json) : Prop :=
  value.IsObject
    ([("id", .number header.id), ("level", .number header.level)]
      ++ Header.countMember "frequency" header.frequency
      ++ Header.countMember "timeframe" header.timeframe)

def Attributes.ShownBy (stored : Attributes) (value : Json) : Prop :=
  value.IsObject (stored.entries.map fun entry => (entry.1.text, .text entry.2))

def Condition.ShownBy (condition : Condition) (value : Json) : Prop :=
  ∃ attributes, condition.attributes.ShownBy attributes ∧
    value.IsObject
      [("id", .text condition.id.text), ("tag", .text condition.tag.text),
       ("value", .text condition.value), ("attributes", attributes)]

def Finding.ShownBy (finding : Finding) (value : Json) : Prop :=
  value.IsObject
    ([("rule", .text finding.check.name), ("severity", .text finding.severity.name),
      ("message", .text finding.message), ("path", .text finding.path)]
      ++ finding.condition?.toList.map fun id => ("condition", .text id.text))

theorem Header.shownBy_toJson (header : Header) : header.ShownBy header.toJson.sorted := by
  obtain ⟨id, level, frequency, timeframe⟩ := header
  apply Json.isObject_sorted
  · cases frequency <;> cases timeframe <;> simp [countMember]
  · cases frequency <;> cases timeframe <;> simp [countMember, Json.sorted]

theorem Attributes.shownBy_toJson {stored : Attributes} (h : stored.WellFormed) :
    stored.ShownBy stored.toJson.sorted := by
  have hkeys : (stored.keys.map Attribute.text).Nodup :=
    h.distinct.map fun _ _ => Attribute.text_inj.1
  apply Json.isObject_sorted
  · simpa [keys, Function.comp_def] using hkeys
  · simp [Json.sorted, Function.comp_def]

theorem Condition.shownBy_toJson {condition : Condition} (h : condition.attributes.WellFormed) :
    condition.ShownBy condition.toJson.sorted := by
  refine ⟨condition.attributes.toJson.sorted, Attributes.shownBy_toJson h, ?_⟩
  apply Json.isObject_sorted
  · simp
  · simp [Json.sorted]

theorem Finding.shownBy_toJson (finding : Finding) : finding.ShownBy finding.toJson.sorted := by
  unfold ShownBy
  apply Json.isObject_sorted
  · cases finding.condition? <;> simp
  · cases finding.condition? <;> simp [Json.sorted]

namespace CommandLine

/-! ### The whole document -/

theorem isObject_document (draft : Draft) (mode : TextMode) (listed : Option (List Finding)) :
    (document draft mode listed).sorted.IsObject
      ([("header", draft.header.toJson.sorted),
        ("conditions", .array (draft.conditions.map fun condition => condition.toJson.sorted)),
        ("xml", .text (draft.render mode)), ("escape", .flag (mode = .escaped))]
        ++ listed.toList.map fun findings =>
          ("lint", .array (findings.map fun finding => finding.toJson.sorted))) := by
  apply Json.isObject_sorted
  · cases listed <;> simp
  · cases listed <;> simp [Json.sorted, Json.sortedItems_eq_map]

variable {options : GenerateOptions} {settings : Settings} {words others : List String}
  {process : Environment} {file : Option String}

theorem run_of_exit_zero (accepted : Command.ofWords words = .ok (.generate options))
    (completed : (run words process file).exit = 0) :
    ∃ settings, Settings.read Settings.defaultStem (process.withFile file).lookup = .ok settings ∧
      ¬options.Rejected settings := by
  cases hread : Settings.read Settings.defaultStem (process.withFile file).lookup with
  | error e =>
    rw [run_of_bad_settings accepted hread] at completed
    cases completed
  | ok settings =>
    refine ⟨settings, rfl, ?_⟩
    intro hrejected
    rw [run_eq_generate accepted hread, generate_of_rejected hrejected] at completed
    cases completed

theorem wellFormed_of_mem_conditions {condition : Condition}
    (h : condition ∈ (options.draft settings).conditions) :
    condition.attributes.WellFormed :=
  Store.stored_empty.run options.edits condition h

theorem nodup_idTexts :
    ((options.draft settings).conditions.map fun condition => condition.id.text).Nodup := by
  have hplaces : ((options.draft settings).conditions.map fun condition => condition.id.text)
      = (List.range' 0 options.conditions.length).map fun i => Handle.text ⟨i⟩ := by
    show (Store.ofArguments options.conditions).conditions.map _ = _
    rw [Store.conditions_ofArguments, List.mapIdx_eq_zipIdx_map, ← List.zipIdx_map_snd,
      List.map_map, List.map_map]
    rfl
  rw [hplaces]
  exact List.Nodup.map (fun i j h => congrArg Handle.index (Handle.text_injective h))
    List.nodup_range'

theorem printed_of_format_json (h : options.format = some .json) :
    options.printed settings =
      (document (options.draft settings) (options.mode settings)
        (if options.lint then some (options.findings settings) else none)).sorted.pretty
        ++ "\n" := by
  rw [GenerateOptions.printed, h]
  rfl

theorem printed_of_format_ne_json (h : options.format ≠ some .json) :
    options.printed settings
      = (options.draft settings).render (options.mode settings) ++ "\n" := by
  unfold GenerateOptions.printed
  cases hformat : options.format with
  | none => rfl
  | some format =>
    cases format with
    | xml => rfl
    | json => exact absurd hformat h

/-- The document shows the draft whose text the same command prints where no document is asked
for. -/
theorem run_json_document (accepted : Command.ofWords others = .ok (.generate options))
    (plain : options.format ≠ some .json)
    (acceptedJson : Command.ofWords words = .ok (.generate { options with format := some .json }))
    (completed : (run words process file).exit = 0) :
    ∃ settings value xml header conditions lint,
      Settings.read Settings.defaultStem (process.withFile file).lookup = .ok settings ∧
      Json.read (run words process file).stdout = some value ∧
      value.IsObject
        ([("header", header), ("conditions", .array conditions), ("xml", .text xml),
          ("escape", .flag (options.mode settings = .escaped))]
          ++ if Switch.lint.word ∈ words then [("lint", .array lint)] else []) ∧
      (run others process file).exit = 0 ∧ (run others process file).stdout = xml ++ "\n" ∧
      xml = (options.draft settings).render (options.mode settings) ∧
      (options.header settings).ShownBy header ∧
      List.Forall₂ Condition.ShownBy (options.draft settings).conditions conditions ∧
      ((options.draft settings).conditions.map fun condition => condition.id.text).Nodup ∧
      List.Forall₂ Finding.ShownBy (options.findings settings) lint ∧
      ∀ finding ∈ options.findings settings, ∀ id, finding.condition? = some id →
        ∃ (i : Nat) (place : String) (condition : Condition),
          finding.path = "/conditions/" ++ Text.Decimal.natural i ++ "/" ++ place ∧
          (options.draft settings).conditions[i]? = some condition ∧ condition.id = id := by
  obtain ⟨settings, configured, hkept⟩ := run_of_exit_zero acceptedJson completed
  obtain ⟨-, hjson⟩ := run_of_not_rejected acceptedJson configured hkept
  obtain ⟨hexit, hxml⟩ := run_of_not_rejected accepted configured hkept
  have hlint : Switch.lint.word ∈ words ↔ options.lint = true :=
    (Command.isOn_iff_mem .lint acceptedJson).symm
  have hobject := isObject_document (options.draft settings) (options.mode settings)
    (if options.lint then some (options.findings settings) else none)
  have hmembers : ((if options.lint then some (options.findings settings) else none).toList.map
      fun findings => ("lint", Json.array (findings.map fun finding => finding.toJson.sorted)))
      = if Switch.lint.word ∈ words then
          [("lint", .array ((options.findings settings).map fun finding => finding.toJson.sorted))]
        else [] := by
    cases hl : options.lint <;> simp [hlint, hl]
  rw [hmembers] at hobject
  rw [printed_of_format_ne_json plain] at hxml
  refine ⟨settings, _, _, _, _, _, configured, ?_, hobject, hexit, hxml, rfl,
    Header.shownBy_toJson _, ?_, nodup_idTexts, ?_, ?_⟩
  · rw [hjson, printed_of_format_json rfl]
    exact Json.read_pretty_line _
  · rw [List.forall₂_map_right_iff, List.forall₂_same]
    intro condition hc
    exact Condition.shownBy_toJson (wellFormed_of_mem_conditions hc)
  · rw [List.forall₂_map_right_iff, List.forall₂_same]
    intro finding _
    exact Finding.shownBy_toJson finding
  · intro finding hfinding id hid
    exact Finding.place_of_condition? hfinding hid

theorem run_json_document_lintedRun :
    let words := ["generate", "--id", "7", "-c", "field[name=user,negate=yes]=\"a\\b\"\n", "-c",
      "regex[type=no]=x<y", "--lint"]
    ∃ value header conditions lint,
      Json.read (run (words ++ ["--format", "json"]) ⟨[]⟩ none).stdout = some value ∧
      value.IsObject
        [("header", header), ("conditions", .array conditions),
         ("xml", .text ("<rule id=\"7\" level=\"5\">\n"
            ++ "    <field name=\"user\" negate=\"yes\">\"a\\b\"\n</field>\n"
            ++ "    <regex>x<y</regex>\n</rule>")),
         ("escape", .flag false), ("lint", .array lint)] ∧
      conditions.length = 2 ∧ lint.length = 3 := by
  intro words
  have accepted : Command.ofWords words = .ok (.generate
      ⟨some 7, none, none, none, [⟨.field, [(.name, "user"), (.negate, "yes")], "\"a\\b\"\n"⟩,
        ⟨.regex, [(.type, "no")], "x<y"⟩], false, true, false, none⟩) := by
    decide
  have acceptedJson : Command.ofWords (words ++ ["--format", "json"]) = .ok (.generate
      ⟨some 7, none, none, none, [⟨.field, [(.name, "user"), (.negate, "yes")], "\"a\\b\"\n"⟩,
        ⟨.regex, [(.type, "no")], "x<y"⟩], false, true, false, some .json⟩) := by
    decide
  have completed : (run (words ++ ["--format", "json"]) ⟨[]⟩ none).exit = 0 := by decide
  obtain ⟨settings, value, xml, header, conditions, lint, configured, hread, hobject, -, -, rfl, -,
      hconditions, -, hlint, -⟩ := run_json_document accepted (by decide) acceptedJson completed
  have hdefault : Settings.read Settings.defaultStem
      ((⟨[]⟩ : Environment).withFile none).lookup = .ok {} := by decide
  rw [hdefault] at configured
  obtain rfl : {} = settings := Except.ok.inj configured
  rw [if_pos (by decide)] at hobject
  have hsize := hconditions.length_eq
  have hfound := hlint.length_eq
  exact ⟨value, header, conditions, lint, hread, hobject, hsize.symm, hfound.symm⟩

end CommandLine

end DetectionRule
