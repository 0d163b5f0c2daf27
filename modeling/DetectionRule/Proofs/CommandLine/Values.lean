import DetectionRule.Proofs.CommandLine.Words

/-!
# Options with a value

An option has its value in the next word or behind an equals sign. No option takes the word of
another as its value, so that in an accepted command line every word of an option gives it a value.
An option that may be given once therefore keeps the value that the words give it, and nothing where
they give none. Main statements: `Slot.kept_eq_some_iff` and `Slot.kept_eq_none_iff`.
-/

namespace DetectionRule.CommandLine

def Valued.word (option : Valued) : String := "--" ++ option.name

/-- The words give the option a value: as the word behind it, or behind an equals sign. -/
inductive Valued.GivenBy (option : Valued) : List String → String → Prop
  | apart {value : String} {words : List String} :
      GivenBy option (option.word :: value :: words) value
  | joined {value : String} {words : List String} :
      GivenBy option ((option.word ++ "=" ++ value) :: words) value
  | later {word value : String} {words : List String} (h : GivenBy option words value) :
      GivenBy option (word :: words) value

variable {word name value text : String} {words : List String} {option other : Valued}
  {options stored : GenerateOptions} {reading after : Reading}

namespace Valued

theorem givenBy_cons_iff :
    option.GivenBy (word :: words) value ↔
      (word = option.word ∧ words.head? = some value) ∨ word = option.word ++ "=" ++ value ∨
        option.GivenBy words value := by
  constructor
  · rintro (_ | _ | h)
    · exact .inl ⟨rfl, rfl⟩
    · exact .inr (.inl rfl)
    · exact .inr (.inr h)
  · rintro (⟨rfl, hvalue⟩ | rfl | h)
    · obtain ⟨rest, rfl⟩ := List.head?_eq_some_iff.1 hvalue
      exact .apart
    · exact .joined
    · exact .later h

theorem ofName?_eq_some (h : ofName? name = some option) : name = option.name := by
  have hname := List.find?_some (show all.find? (fun option => option.name == name) = _ from h)
  exact (beq_iff_eq.1 hname).symm

theorem ofName?_name (option : Valued) : ofName? option.name = some option := by
  cases option <;> decide

theorem name_inj : option.name = other.name ↔ option = other := by
  refine ⟨fun h => Option.some_inj.1 ?_, fun h => h ▸ rfl⟩
  rw [← ofName?_name option, h, ofName?_name]

theorem name_ne_switch (option : Valued) (switch : Switch) : option.name ≠ switch.name := by
  intro h
  have hnone := ofName?_switch switch
  rw [← h, ofName?_name] at hnone
  cases hnone

theorem equals_not_mem_name (option : Valued) : '=' ∉ option.name.toList := by
  cases option <;> decide

theorem takes_of_dashes (h : ['-', '-'] <+: word.toList) : option.takes word = false := by
  obtain ⟨cs, hcs⟩ := h
  rw [takes, ← hcs]
  cases option <;> rfl

theorem takes_word (option other : Valued) : option.takes other.word = false :=
  takes_of_dashes ⟨other.name.toList, by simp [word]⟩

theorem word_ne_generate (option : Valued) : option.word ≠ "generate" := by
  cases option <;> decide

theorem joined_ne_generate (option : Valued) (value : String) :
    option.word ++ "=" ++ value ≠ "generate" := by
  intro h
  have hfirst := congrArg (fun s => s.toList.head?) h
  simp [word] at hfirst

theorem takes_joined (option other : Valued) (value : String) :
    option.takes (other.word ++ "=" ++ value) = false :=
  takes_of_dashes ⟨other.name.toList ++ '=' :: value.toList, by simp [word]⟩

end Valued

namespace Word

theorem ofString_valued (option : Valued) : ofString option.word = .long option.name none := by
  cases option <;> decide

theorem ofString_joined (option : Valued) (value : String) :
    ofString (option.word ++ "=" ++ value) = .long option.name (some value) := by
  have hword : (option.word ++ "=" ++ value).toList
      = '-' :: '-' :: (option.name.toList ++ '=' :: value.toList) := by
    simp [Valued.word]
  have hdivides := Text.divides_at option.equals_not_mem_name value.toList
  obtain ⟨hbefore, hrest⟩ := Text.before_eq_iff.2 hdivides
  have hsome : option.name.toList ++ '=' :: value.toList ≠ [] := by simp
  unfold ofString
  split
  · simp_all
  · next cs _ hcs =>
    rw [hword] at hcs
    cases hcs
    rw [hbefore, hrest]
    simp
  all_goals simp_all

theorem eq_of_ofString_joined (h : ofString word = .long name (some value)) :
    word = "--" ++ name ++ "=" ++ value := by
  apply String.toList_injective
  unfold ofString at h
  split at h <;> try cases h
  rename_i cs _ hword
  split at h <;> cases h
  rename_i c rest hrest
  have hwhole := Text.before_append_fromFirst (· = '=') cs
  have hstop := (Text.divides_before_fromFirst (· = '=') cs).stop c (by rw [hrest]; rfl)
  have hc : c = '=' := of_decide_eq_true hstop
  rw [hrest, hc] at hwhole
  simp [hword, hwhole]

end Word

/-! ### What an accepted word does -/

namespace Reading

/-- A word is taken as the value of the option before it, or it is read for what it is. -/
inductive Reads (reading : Reading) (word : String) : Reading → Prop
  | value {option : Valued} {stored : GenerateOptions} (expected : reading.expected = .value option)
      (taken : option.takes word = true) (store : option.store reading.options word = .ok stored) :
      Reads reading word { options := stored }
  | ending (expected : reading.expected = .option) (h : Word.ofString word = .endOfOptions) :
      Reads reading word { reading with expected := .nothing }
  | apart {option : Valued} (expected : reading.expected = .option)
      (h : Word.ofString word = .long option.name none) :
      Reads reading word { reading with expected := .value option }
  | joined {option : Valued} {value : String} {stored : GenerateOptions}
      (expected : reading.expected = .option)
      (h : Word.ofString word = .long option.name (some value))
      (store : option.store reading.options value = .ok stored) :
      Reads reading word { options := stored }
  | switch {switch : Switch} (expected : reading.expected = .option)
      (h : Word.ofString word = .long switch.name none) :
      Reads reading word (reading.set switch true)
  | short (expected : reading.expected = .option)
      (h : Word.ofString word = .conditionOption none) :
      Reads reading word { reading with expected := .value .condition }
  | shortJoined {value : String} {stored : GenerateOptions} (expected : reading.expected = .option)
      (h : Word.ofString word = .conditionOption (some value))
      (store : Valued.condition.store reading.options value = .ok stored) :
      Reads reading word { options := stored }

theorem valued_some_eq_ok (h : valued options option (some value) = .ok after) :
    ∃ stored, option.store options value = .ok stored ∧ after = { options := stored } := by
  rw [valued] at h
  cases hstore : option.store options value with
  | error stop =>
    rw [hstore] at h
    cases h
  | ok stored =>
    rw [hstore] at h
    cases h
    exact ⟨stored, rfl, rfl⟩

theorem reads_of_long {given : Option String} (expected : reading.expected = .option)
    (hword : Word.ofString word = .long name given)
    (h : long reading.options word name given = .ok after) : reading.Reads word after := by
  have hlong := h
  unfold long at h
  cases hvalued : Valued.ofName? name with
  | some option =>
    obtain rfl := Valued.ofName?_eq_some hvalued
    rw [hvalued] at h
    cases given with
    | none =>
      cases h
      exact .apart expected hword
    | some value =>
      obtain ⟨stored, hstore, rfl⟩ := valued_some_eq_ok h
      exact .joined expected hword hstore
  | none =>
    cases hswitch : Switch.ofName? name with
    | none =>
      rw [hvalued, hswitch] at h
      cases h
    | some switch =>
      obtain rfl := Switch.ofName?_eq_some hswitch
      cases given with
      | some value =>
        rw [hvalued, hswitch] at h
        cases h
      | none =>
        obtain rfl : word = switch.word := Word.eq_of_ofString_long hword
        have hread : reading.read switch.word = .ok after := by
          rw [read, expected, hword]
          exact hlong
        rw [read_switch hread]
        exact .switch expected hword

theorem reads_of_read (h : reading.read word = .ok after) : reading.Reads word after := by
  cases expected : reading.expected with
  | nothing =>
    rw [read, expected] at h
    cases h
  | value option =>
    simp only [read, expected] at h
    split at h
    · next taken =>
      obtain ⟨stored, hstore, rfl⟩ := valued_some_eq_ok h
      exact .value expected taken hstore
    · cases h
  | option =>
    rw [read, expected] at h
    cases hword : Word.ofString word with
    | endOfOptions =>
      rw [hword] at h
      cases h
      exact .ending expected hword
    | long name given =>
      rw [hword] at h
      exact reads_of_long expected hword h
    | conditionOption given =>
      rw [hword] at h
      cases given with
      | none =>
        cases h
        exact .short expected hword
      | some value =>
        obtain ⟨stored, hstore, rfl⟩ := valued_some_eq_ok h
        exact .shortJoined expected hword hstore
    | help =>
      rw [hword] at h
      cases h
    | other =>
      rw [hword] at h
      cases h

end Reading

/-- The options where the value of one of them has been stored. -/
inductive Valued.Stored (options : GenerateOptions) : Valued → GenerateOptions → Prop
  | id (id : Option Int) : Stored options .id { options with id }
  | level (level : Option Int) : Stored options .level { options with level }
  | frequency (frequency : Option Nat) : Stored options .frequency { options with frequency }
  | timeframe (timeframe : Option Nat) : Stored options .timeframe { options with timeframe }
  | condition (conditions : List Argument) : Stored options .condition { options with conditions }
  | format (format : Option Format) : Stored options .format { options with format }

theorem Valued.once_map_eq_ok {α : Type} {old new : Option α} {put : Option α → GenerateOptions}
    (h : (once option old value new).map put = .ok stored) :
    old = none ∧ ∃ a, new = some a ∧ stored = put (some a) := by
  cases old with
  | some a => cases new <;> cases h
  | none =>
    cases new with
    | none => cases h
    | some a =>
      cases h
      exact ⟨rfl, a, rfl, rfl⟩

theorem Valued.stored_of_store (h : option.store options value = .ok stored) :
    option.Stored options stored := by
  cases option with
  | condition =>
    rw [store] at h
    split at h
    · cases h
      exact .condition _
    · cases h
  | id =>
    obtain ⟨-, a, -, rfl⟩ := once_map_eq_ok h
    exact .id _
  | level =>
    obtain ⟨-, a, -, rfl⟩ := once_map_eq_ok h
    exact .level _
  | frequency =>
    obtain ⟨-, a, -, rfl⟩ := once_map_eq_ok h
    exact .frequency _
  | timeframe =>
    obtain ⟨-, a, -, rfl⟩ := once_map_eq_ok h
    exact .timeframe _
  | format =>
    obtain ⟨-, a, -, rfl⟩ := once_map_eq_ok h
    exact .format _

/-- An option that may be given once: how its value is read, and where it is kept. -/
structure Slot (α : Type) where
  option : Valued
  read : String → Option α
  kept : GenerateOptions → Option α
  option_ne : option ≠ .condition := by nofun
  kept_start : kept {} = none := by rfl
  kept_set : ∀ (switch : Switch) (on : Bool) (options : GenerateOptions),
      kept (switch.set on options) = kept options := by
    intro switch _ _
    cases switch <;> rfl
  kept_store : ∀ {options stored : GenerateOptions} {value : String},
      option.store options value = .ok stored →
        kept options = none ∧ ∃ a, read value = some a ∧ kept stored = some a := by
    intro _ _ _ h
    obtain ⟨hnone, a, ha, rfl⟩ := Valued.once_map_eq_ok h
    exact ⟨hnone, a, ha, rfl⟩
  kept_stored : ∀ {other : Valued} {options stored : GenerateOptions},
      other ≠ option → other.Stored options stored → kept stored = kept options := by
    intro _ _ _ hne h
    cases h <;> first | rfl | exact absurd rfl hne

namespace Slot

def id : Slot Int where
  option := .id
  read value := (Text.Decimal.readSigned value.toList).toOption
  kept := GenerateOptions.id

def level : Slot Int where
  option := .level
  read value := (Text.Decimal.readSigned value.toList).toOption
  kept := GenerateOptions.level

def frequency : Slot Nat where
  option := .frequency
  read value := (Text.Decimal.readUnsigned value.toList).toOption
  kept := GenerateOptions.frequency

def timeframe : Slot Nat where
  option := .timeframe
  read value := (Text.Decimal.readUnsigned value.toList).toOption
  kept := GenerateOptions.timeframe

def format : Slot Format where
  option := .format
  read := Valued.readFormat?
  kept := GenerateOptions.format

variable {α : Type} {slot : Slot α}

/-- The word is taken as the value of the option, or it is the word of the option and has the value
behind an equals sign. -/
def GivenWith (slot : Slot α) (reading : Reading) (word value : String) : Prop :=
  (reading.expected = .value slot.option ∧ word = value) ∨ word = slot.option.word ++ "=" ++ value

theorem kept_of_store_other (hne : other ≠ slot.option)
    (h : other.store options value = .ok stored) : slot.kept stored = slot.kept options :=
  slot.kept_stored hne (Valued.stored_of_store h)

theorem kept_read_of_givenWith (h : reading.read word = .ok after)
    (given : slot.GivenWith reading word value) :
    slot.kept reading.options = none ∧
      ∃ a, slot.read value = some a ∧ slot.kept after.options = some a := by
  have hreads := Reading.reads_of_read h
  rcases given with ⟨hexpected, rfl⟩ | hjoined
  · cases hreads with
    | value expected taken store =>
      obtain rfl : slot.option = _ := Expected.value.inj (hexpected.symm.trans expected)
      exact slot.kept_store store
    | ending expected | apart expected | joined expected | switch expected | short expected
    | shortJoined expected =>
      rw [hexpected] at expected
      cases expected
  · have hlong : Word.ofString word = .long slot.option.name (some value) := by
      rw [hjoined, Word.ofString_joined]
    cases hreads with
    | value expected taken store =>
      rw [hjoined, Valued.takes_joined] at taken
      cases taken
    | joined expected hword store =>
      rw [hlong] at hword
      injection hword with hname hvalue
      obtain rfl := Valued.name_inj.1 hname
      cases hvalue
      exact slot.kept_store store
    | ending expected hword | apart expected hword | switch expected hword | short expected hword
    | shortJoined expected hword =>
      rw [hlong] at hword
      simp at hword

theorem kept_read (h : reading.read word = .ok after)
    (given : ∀ value, ¬slot.GivenWith reading word value) :
    slot.kept after.options = slot.kept reading.options := by
  cases Reading.reads_of_read h with
  | @value option stored expected taken store =>
    have hne : option ≠ slot.option := by
      rintro rfl
      exact given word (.inl ⟨expected, rfl⟩)
    exact kept_of_store_other hne store
  | @joined option value stored expected hword store =>
    have hne : option ≠ slot.option := by
      rintro rfl
      exact given value (.inr (Word.eq_of_ofString_joined hword))
    exact kept_of_store_other hne store
  | switch => exact slot.kept_set _ _ _
  | shortJoined expected hword store => exact kept_of_store_other slot.option_ne.symm store
  | ending | apart | short => rfl

theorem expected_read_iff (h : reading.read word = .ok after) :
    after.expected = .value slot.option ↔ word = slot.option.word := by
  cases Reading.reads_of_read h with
  | value expected taken store =>
    refine iff_of_false Expected.noConfusion fun hword => ?_
    rw [hword, Valued.takes_word] at taken
    cases taken
  | @apart option expected hlong =>
    have hword : word = option.word := Word.eq_of_ofString_long hlong
    rw [Expected.value.injEq, hword]
    constructor
    · rintro rfl
      rfl
    · intro hsame
      rw [hword, hsame, Word.ofString_valued] at hlong
      injection hlong with hname
      exact (Valued.name_inj.1 hname).symm
  | @switch switch expected hlong =>
    have hoption : (reading.set switch true).expected = .option := expected
    refine iff_of_false (by rw [hoption]; exact Expected.noConfusion) fun hword => ?_
    rw [hword, Word.ofString_valued] at hlong
    injection hlong with hname
    exact Valued.name_ne_switch _ _ hname
  | short expected hshort =>
    refine iff_of_false (fun he => slot.option_ne (Expected.value.inj he).symm) fun hword => ?_
    rw [hword, Word.ofString_valued] at hshort
    cases hshort
  | ending expected hother | joined expected hother | shortJoined expected hother =>
    refine iff_of_false Expected.noConfusion fun hword => ?_
    rw [hword, Word.ofString_valued] at hother
    simp at hother

/-! ### All words -/

/-- The words give the option a value, the first one where it is expected. -/
def GivenFrom (slot : Slot α) (reading : Reading) (words : List String) (value : String) : Prop :=
  (reading.expected = .value slot.option ∧ words.head? = some value) ∨
    slot.option.GivenBy words value

theorem givenFrom_cons_iff (h : reading.read word = .ok after) :
    slot.GivenFrom reading (word :: words) value ↔
      slot.GivenWith reading word value ∨ slot.GivenFrom after words value := by
  rw [GivenFrom, GivenWith, GivenFrom, Valued.givenBy_cons_iff, expected_read_iff h,
    List.head?_cons, Option.some_inj]
  tauto

theorem kept_foldlM_of_some {a : α} (h : words.foldlM Reading.read reading = .ok after)
    (hkept : slot.kept reading.options = some a) : slot.kept after.options = some a := by
  -- By induction on the words; an option that has its value is not given another.
  induction words generalizing reading with
  | nil =>
    cases h
    exact hkept
  | cons word words ih =>
    obtain ⟨next, hread, hfold⟩ := Reading.foldlM_cons_eq_ok h
    apply ih hfold
    rw [kept_read hread, hkept]
    intro value given
    obtain ⟨hnone, -⟩ := kept_read_of_givenWith hread given
    rw [hkept] at hnone
    cases hnone

theorem kept_foldlM_of_givenFrom (h : words.foldlM Reading.read reading = .ok after)
    (given : slot.GivenFrom reading words value) :
    ∃ a, slot.read value = some a ∧ slot.kept after.options = some a := by
  induction words generalizing reading with
  | nil => rcases given with ⟨-, hvalue⟩ | ⟨⟨⟩⟩; cases hvalue
  | cons word words ih =>
    obtain ⟨next, hread, hfold⟩ := Reading.foldlM_cons_eq_ok h
    rcases (givenFrom_cons_iff hread).1 given with hnow | hlater
    · obtain ⟨-, a, ha, hkept⟩ := kept_read_of_givenWith hread hnow
      exact ⟨a, ha, kept_foldlM_of_some hfold hkept⟩
    · exact ih hfold hlater

theorem kept_foldlM (h : words.foldlM Reading.read reading = .ok after)
    (given : ∀ value, ¬slot.GivenFrom reading words value) :
    slot.kept after.options = slot.kept reading.options := by
  induction words generalizing reading with
  | nil =>
    cases h
    rfl
  | cons word words ih =>
    obtain ⟨next, hread, hfold⟩ := Reading.foldlM_cons_eq_ok h
    simp only [givenFrom_cons_iff hread, not_or] at given
    rw [ih hfold fun value => (given value).2, kept_read hread fun value => (given value).1]

/-! ### Whole command lines -/

theorem exists_kept_of_givenBy (slot : Slot α) (h : Command.ofWords words = .ok (.generate options))
    (given : slot.option.GivenBy words value) :
    ∃ a, slot.read value = some a ∧ slot.kept options = some a := by
  obtain ⟨rest, rfl, hread⟩ := Command.ofWords_eq_generate h
  obtain ⟨reading, hfold, hfinish⟩ := readOptions_eq_ok hread
  rw [← Reading.options_of_finish hfinish]
  apply kept_foldlM_of_givenFrom hfold
  rcases Valued.givenBy_cons_iff.1 given with ⟨hword, -⟩ | hword | given
  · exact absurd hword.symm (Valued.word_ne_generate _)
  · exact absurd hword.symm (Valued.joined_ne_generate _ _)
  · exact .inr given

theorem kept_eq_none (slot : Slot α) (h : Command.ofWords words = .ok (.generate options))
    (given : ∀ value, ¬slot.option.GivenBy words value) : slot.kept options = none := by
  obtain ⟨rest, rfl, hread⟩ := Command.ofWords_eq_generate h
  obtain ⟨reading, hfold, hfinish⟩ := readOptions_eq_ok hread
  rw [← Reading.options_of_finish hfinish, kept_foldlM hfold, slot.kept_start]
  rintro value (⟨hexpected, -⟩ | hlater)
  · cases hexpected
  · exact given value (.later hlater)

theorem kept_eq_some_iff (slot : Slot α) {a : α}
    (h : Command.ofWords words = .ok (.generate options)) :
    slot.kept options = some a ↔
      ∃ value, slot.option.GivenBy words value ∧ slot.read value = some a := by
  constructor
  · intro hkept
    by_contra hnot
    have hnone : slot.kept options = none := by
      apply slot.kept_eq_none h
      intro value given
      obtain ⟨b, hread, hb⟩ := slot.exists_kept_of_givenBy h given
      rw [hkept] at hb
      cases hb
      exact hnot ⟨value, given, hread⟩
    rw [hkept] at hnone
    cases hnone
  · rintro ⟨value, given, hread⟩
    obtain ⟨b, hb, hkept⟩ := slot.exists_kept_of_givenBy h given
    rw [hread] at hb
    cases hb
    exact hkept

theorem kept_eq_none_iff (slot : Slot α) (h : Command.ofWords words = .ok (.generate options)) :
    slot.kept options = none ↔ ∀ value, ¬slot.option.GivenBy words value := by
  refine ⟨?_, slot.kept_eq_none h⟩
  intro hnone value given
  obtain ⟨a, -, hkept⟩ := slot.exists_kept_of_givenBy h given
  rw [hnone] at hkept
  cases hkept

end Slot

end DetectionRule.CommandLine
