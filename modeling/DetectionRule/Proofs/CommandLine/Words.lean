import DetectionRule.CommandLine.Command
import DetectionRule.Proofs.Text.Cutting

/-!
# Command lines with a switch taken out

A switch is one word, and where a command line is accepted that word stands nowhere else: no option
takes it as a value. So a switch is on exactly when its word is there, and a command line without
the word is accepted as well, with the same options but for the switch. Main statements:
`isOn_iff_mem` and `ofWords_dropFrom`.
-/

namespace DetectionRule.CommandLine

namespace Switch

def word (switch : Switch) : String := "--" ++ switch.name

/-- The words without those that are the switch. -/
def dropFrom (switch : Switch) (words : List String) : List String :=
  words.filter fun word => word ≠ switch.word

def isOn (switch : Switch) (options : GenerateOptions) : Bool :=
  match switch with
  | escape => options.escape
  | lint => options.lint
  | strict => options.strict

def set (switch : Switch) (on : Bool) (options : GenerateOptions) : GenerateOptions :=
  match switch with
  | escape => { options with escape := on }
  | lint => { options with lint := on }
  | strict => { options with strict := on }

def turnOff (switch : Switch) (options : GenerateOptions) : GenerateOptions :=
  switch.set false options

variable {switch other : Switch} {options after : GenerateOptions}

theorem ofName?_eq_some {name : String} (h : ofName? name = some switch) : name = switch.name := by
  have hname := List.find?_some (show all.find? (fun option => option.name == name) = _ from h)
  exact (beq_iff_eq.1 hname).symm

theorem ofName?_name (switch : Switch) : ofName? switch.name = some switch := by
  cases switch <;> decide

theorem isOn_set (switch : Switch) (on : Bool) (options : GenerateOptions) :
    switch.isOn (switch.set on options) = on := by
  cases switch <;> rfl

theorem set_isOn (switch : Switch) (options : GenerateOptions) :
    switch.set (switch.isOn options) options = options := by
  cases switch <;> rfl

theorem eq_set_of_turnOn (h : switch.turnOn options = .ok after) :
    after = switch.set true options := by
  cases switch <;> simp only [turnOn] at h <;> split at h <;> cases h <;> rfl

theorem turnOff_set (switch : Switch) (on : Bool) (options : GenerateOptions) :
    switch.turnOff (switch.set on options) = switch.turnOff options := by
  cases switch <;> rfl

theorem set_turnOff (switch : Switch) (on : Bool) (options : GenerateOptions) :
    switch.set on (switch.turnOff options) = switch.set on options := by
  cases switch <;> rfl

theorem turnOn_set (hne : other ≠ switch) (on : Bool) (options : GenerateOptions) :
    other.turnOn (switch.set on options) = (other.turnOn options).map (switch.set on) := by
  obtain ⟨_, _, _, _, _, escaped, linted, checked, _⟩ := options
  cases other with
  | escape => cases escaped <;> cases switch <;> first | exact absurd rfl hne | rfl
  | lint => cases linted <;> cases switch <;> first | exact absurd rfl hne | rfl
  | strict => cases checked <;> cases switch <;> first | exact absurd rfl hne | rfl

end Switch

variable {word name value : String} {words : List String} {switch : Switch}
  {options : GenerateOptions} {reading after : Reading}

theorem Word.ofString_switch (switch : Switch) :
    Word.ofString switch.word = .long switch.name none := by
  cases switch <;> decide

theorem Word.eq_of_ofString_long (h : Word.ofString word = .long name none) :
    word = "--" ++ name := by
  apply String.toList_injective
  unfold Word.ofString at h
  split at h <;> try cases h
  rename_i cs _ hword
  split at h <;> cases h
  rename_i hrest _
  have hwhole := Text.before_append_fromFirst (· = '=') cs
  rw [hrest, List.append_nil] at hwhole
  simp [hword, hwhole]

theorem Valued.takes_switch (option : Valued) (switch : Switch) :
    option.takes switch.word = false := by
  cases switch <;> cases option <;> decide

theorem Valued.ofName?_switch (switch : Switch) : Valued.ofName? switch.name = none := by
  cases switch <;> decide

/-! ### Reading on without the switch -/

theorem Valued.store_set (option : Valued) (switch : Switch) (on : Bool) (options : GenerateOptions)
    (value : String) :
    option.store (switch.set on options) value
      = (option.store options value).map (switch.set on) := by
  cases option with
  | id =>
    cases switch <;> simp only [store, Switch.set] <;>
      cases once id options.id value (Text.Decimal.readSigned value.toList).toOption <;> rfl
  | level =>
    cases switch <;> simp only [store, Switch.set] <;>
      cases once level options.level value (Text.Decimal.readSigned value.toList).toOption <;> rfl
  | frequency =>
    cases switch <;> simp only [store, Switch.set] <;>
      cases once frequency options.frequency value
        (Text.Decimal.readUnsigned value.toList).toOption <;> rfl
  | timeframe =>
    cases switch <;> simp only [store, Switch.set] <;>
      cases once timeframe options.timeframe value
        (Text.Decimal.readUnsigned value.toList).toOption <;> rfl
  | format =>
    cases switch <;> simp only [store, Switch.set] <;>
      cases once format options.format value (readFormat? value) <;> rfl
  | condition =>
    cases switch <;> simp only [store, Switch.set] <;> cases Argument.parse value <;> rfl

namespace Reading

def set (switch : Switch) (on : Bool) (reading : Reading) : Reading :=
  { reading with options := switch.set on reading.options }

theorem valued_set (switch : Switch) (on : Bool) (options : GenerateOptions) (option : Valued)
    (given : Option String) :
    valued (switch.set on options) option given
      = (valued options option given).map (set switch on) := by
  cases given with
  | none => rfl
  | some value =>
    rw [valued, valued, Valued.store_set]
    cases option.store options value <;> rfl

theorem long_set {given : Option String} (hne : word ≠ switch.word)
    (hword : Word.ofString word = .long name given) (on : Bool) (options : GenerateOptions) :
    long (switch.set on options) word name given
      = (long options word name given).map (set switch on) := by
  unfold long
  cases hvalued : Valued.ofName? name with
  | some option => exact valued_set switch on options option given
  | none =>
    cases hswitch : Switch.ofName? name with
    | none => rfl
    | some other =>
      cases given with
      | some value => rfl
      | none =>
        have hother : other ≠ switch := by
          rintro rfl
          rw [Word.eq_of_ofString_long hword, Switch.ofName?_eq_some hswitch] at hne
          exact hne rfl
        show (other.turnOn (switch.set on options)).map _ = ((other.turnOn options).map _).map _
        rw [Switch.turnOn_set hother]
        cases other.turnOn options <;> rfl

/-- Any other word is read alike whether the switch is on or off, and leaves it so. -/
theorem read_set (hne : word ≠ switch.word) (on : Bool) (reading : Reading) :
    (reading.set switch on).read word = (reading.read word).map (set switch on) := by
  obtain ⟨options, expected⟩ := reading
  cases expected with
  | nothing => rfl
  | value option =>
    simp only [read, set, valued_set]
    split <;> rfl
  | option =>
    simp only [read, set]
    cases hword : Word.ofString word with
    | endOfOptions => rfl
    | long name given => exact long_set hne hword on options
    | conditionOption given => exact valued_set switch on options .condition given
    | help => rfl
    | other => rfl

theorem isOn_read (hne : word ≠ switch.word) (h : reading.read word = .ok after) :
    switch.isOn after.options = switch.isOn reading.options := by
  have hset := read_set hne (switch.isOn reading.options) reading
  rw [set, Switch.set_isOn, h] at hset
  have hafter : after = after.set switch (switch.isOn reading.options) := Except.ok.inj hset
  rw [hafter]
  exact Switch.isOn_set switch _ after.options

/-- The word of the switch turns it on and does nothing else. -/
theorem read_switch (h : reading.read switch.word = .ok after) :
    after = reading.set switch true := by
  obtain ⟨options, expected⟩ := reading
  cases expected with
  | nothing => cases h
  | value option =>
    rw [read] at h
    simp only [Valued.takes_switch] at h
    cases h
  | option =>
    simp only [read, Word.ofString_switch, long, Valued.ofName?_switch, Switch.ofName?_name] at h
    cases hturn : switch.turnOn options with
    | error stop =>
      rw [hturn] at h
      cases h
    | ok turned =>
      rw [hturn] at h
      cases h
      rw [set, Switch.eq_set_of_turnOn hturn]

theorem foldlM_cons_eq_ok (h : (word :: words).foldlM read reading = .ok after) :
    ∃ next, reading.read word = .ok next ∧ words.foldlM read next = .ok after := by
  rw [List.foldlM_cons] at h
  cases hread : reading.read word with
  | error stop =>
    rw [hread] at h
    cases h
  | ok next =>
    rw [hread] at h
    exact ⟨next, rfl, h⟩

theorem foldlM_dropFrom (switch : Switch) (h : words.foldlM read reading = .ok after) :
    (switch.dropFrom words).foldlM read (reading.set switch false)
      = .ok (after.set switch false) := by
  -- By induction on the words: the switch changes nothing else, and the other words do what they
  -- do without it.
  induction words generalizing reading with
  | nil =>
    cases h
    rfl
  | cons word words ih =>
    obtain ⟨next, hread, hfold⟩ := foldlM_cons_eq_ok h
    have hrest := ih hfold
    by_cases hword : word = switch.word
    · rw [Switch.dropFrom, List.filter_cons_of_neg (by simp [hword])]
      rw [hword] at hread
      rw [read_switch hread, set, set, ← Switch.turnOff, Switch.turnOff_set] at hrest
      exact hrest
    · rw [Switch.dropFrom, List.filter_cons_of_pos (by simp [hword]), List.foldlM_cons,
        read_set hword, hread]
      exact hrest

theorem isOn_foldlM (h : words.foldlM read reading = .ok after) :
    switch.isOn after.options = true ↔
      switch.isOn reading.options = true ∨ switch.word ∈ words := by
  -- By induction on the words: a switch that is on stays so, and its word is what turns it on.
  induction words generalizing reading with
  | nil =>
    cases h
    simp
  | cons word words ih =>
    obtain ⟨next, hread, hfold⟩ := foldlM_cons_eq_ok h
    rw [ih hfold, List.mem_cons]
    by_cases hword : word = switch.word
    · rw [hword] at hread
      rw [read_switch hread, set, Switch.isOn_set]
      simp [hword]
    · rw [isOn_read hword hread]
      simp [Ne.symm hword]

theorem options_of_finish {options : GenerateOptions} (h : reading.finish = .ok options) :
    reading.options = options := by
  obtain ⟨read, expected⟩ := reading
  cases expected <;> cases h <;> rfl

theorem finish_set (h : reading.finish = .ok options) :
    (reading.set switch false).finish = .ok (switch.turnOff options) := by
  obtain ⟨read, expected⟩ := reading
  cases expected <;> cases h <;> rfl

end Reading

/-! ### Whole command lines -/

theorem readOptions_eq_ok (h : readOptions words = .ok options) :
    ∃ reading, words.foldlM Reading.read {} = .ok reading ∧ reading.finish = .ok options := by
  unfold readOptions at h
  cases hfold : words.foldlM Reading.read {} with
  | error stop =>
    rw [hfold] at h
    cases h
  | ok reading =>
    rw [hfold] at h
    exact ⟨reading, rfl, h⟩

theorem readOptions_dropFrom (switch : Switch) (h : readOptions words = .ok options) :
    readOptions (switch.dropFrom words) = .ok (switch.turnOff options) := by
  obtain ⟨reading, hfold, hfinish⟩ := readOptions_eq_ok h
  have hstart : Reading.set switch false {} = {} := by cases switch <;> rfl
  have hrest := Reading.foldlM_dropFrom switch hfold
  rw [hstart] at hrest
  unfold readOptions
  rw [hrest]
  exact Reading.finish_set hfinish

theorem isOn_readOptions (h : readOptions words = .ok options) :
    switch.isOn options = true ↔ switch.word ∈ words := by
  obtain ⟨reading, hfold, hfinish⟩ := readOptions_eq_ok h
  have hstart : switch.isOn {} = false := by cases switch <;> rfl
  rw [← Reading.options_of_finish hfinish, Reading.isOn_foldlM hfold]
  simp [hstart]

theorem Command.ofWords_eq_generate (h : Command.ofWords words = .ok (.generate options)) :
    ∃ rest, words = "generate" :: rest ∧ readOptions rest = .ok options := by
  unfold ofWords at h
  split at h
  · cases h
  · next rest =>
    cases hread : readOptions rest with
    | error stop =>
      rw [hread] at h
      cases h
    | ok read =>
      rw [hread] at h
      cases h
      exact ⟨rest, rfl, hread⟩
  · next rest => cases hread : readNone rest <;> rw [hread] at h <;> cases h
  · next rest => cases hread : readNone rest <;> rw [hread] at h <;> cases h
  · split at h <;> cases h
  · split at h <;> cases h

theorem Switch.word_ne_generate (switch : Switch) : switch.word ≠ "generate" := by
  cases switch <;> decide

theorem Command.ofWords_dropFrom (switch : Switch)
    (h : Command.ofWords words = .ok (.generate options)) :
    Command.ofWords (switch.dropFrom words) = .ok (.generate (switch.turnOff options)) := by
  obtain ⟨rest, rfl, hread⟩ := Command.ofWords_eq_generate h
  rw [Switch.dropFrom, List.filter_cons_of_pos (by simp [switch.word_ne_generate.symm])]
  show (readOptions (switch.dropFrom rest)).map Command.generate = _
  rw [readOptions_dropFrom switch hread]
  rfl

theorem Command.isOn_iff_mem (switch : Switch)
    (h : Command.ofWords words = .ok (.generate options)) :
    switch.isOn options = true ↔ switch.word ∈ words := by
  obtain ⟨rest, rfl, hread⟩ := Command.ofWords_eq_generate h
  rw [isOn_readOptions hread, List.mem_cons, or_iff_right switch.word_ne_generate]

end DetectionRule.CommandLine
