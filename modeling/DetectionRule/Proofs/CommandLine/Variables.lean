import DetectionRule.Proofs.CommandLine.Settings
import DetectionRule.Proofs.Text.Numerals

/-!
# Which variables are accepted

The text of a number is trimmed, and is then blank, a numeral within 64 bits, or at fault for the
first character at which it can be neither (`readInteger_exact`). Settings can be read when each of
the three variables that may be at fault is absent, blank or of its kind. The first that is not is
the error, with its text as it was given, whatever the others hold. Main statement: `read_exact`.
-/

namespace DetectionRule.Settings

open Text Text.Decimal

/-- What reading the text of a number gives. -/
structure IntegerRead (text : String) : Prop where
  blank : readInteger text = .ok none ↔ isBlankText text = true
  integer : ∀ n, readInteger text = .ok (some n) ↔ Denotes (trimChars text.toList) n ∧ Fits n
  tooLarge : readInteger text = .error .tooLarge ↔
    ∃ front n, front <+: trimChars text.toList ∧ Denotes front n ∧ 2 ^ 63 - 1 < n
  tooSmall : readInteger text = .error .tooSmall ↔
    ∃ front n, front <+: trimChars text.toList ∧ Denotes front n ∧ n < -2 ^ 63
  invalidDigit : readInteger text = .error .invalidDigit ↔
    isBlankText text = false ∧ (∀ n, ¬Denotes (trimChars text.toList) n) ∧
      ∀ front n, front <+: trimChars text.toList → Denotes front n → Fits n
  refused : ∀ fault, readInteger text = .error fault →
    fault = .tooLarge ∨ fault = .tooSmall ∨ fault = .invalidDigit

variable {lookup : String → Option String} {stem name text value : String}
  {setting : Option String} {default n : Int} {fault : Fault} {settings : Settings}

theorem readInteger_eq_some_iff : readInteger text = .ok (some n) ↔
    Denotes (trimChars text.toList) n ∧ Fits n := by
  rw [← readSigned_eq_ok_iff]
  by_cases hblank : isBlankText text = true
  · rw [readInteger_of_isBlankText hblank, trimChars_eq_nil_iff.2 hblank]
    exact ⟨nofun, nofun⟩
  · rw [readInteger_of_not_isBlankText hblank]
    cases readSigned (trimChars text.toList) <;> simp [Except.map]

theorem readInteger_eq_none_iff : readInteger text = .ok none ↔ isBlankText text = true := by
  refine ⟨?_, readInteger_of_isBlankText⟩
  intro h
  by_contra hblank
  rw [readInteger_of_not_isBlankText hblank] at h
  cases hread : readSigned (trimChars text.toList) <;> simp [hread, Except.map] at h

theorem readInteger_eq_error_iff : readInteger text = .error fault ↔
    isBlankText text = false ∧ readSigned (trimChars text.toList) = .error fault := by
  by_cases hblank : isBlankText text = true
  · rw [readInteger_of_isBlankText hblank, hblank]
    simp
  · rw [readInteger_of_not_isBlankText hblank, Bool.eq_false_iff.2 hblank]
    cases readSigned (trimChars text.toList) <;> simp [Except.map]

theorem isBlankText_of_denotes {front : List Char} (hfront : front <+: trimChars text.toList)
    (h : Denotes front n) : isBlankText text = false := by
  rw [← Bool.not_eq_true]
  intro hblank
  rw [trimChars_eq_nil_iff.2 hblank, List.prefix_nil] at hfront
  exact h.ne_nil hfront

theorem integerRead (text : String) : IntegerRead text where
  blank := readInteger_eq_none_iff
  integer := fun _ => readInteger_eq_some_iff
  tooLarge := by
    rw [readInteger_eq_error_iff, readSigned_tooLarge_iff]
    refine and_iff_right_of_imp ?_
    rintro ⟨front, n, hfront, hdenotes, -⟩
    exact isBlankText_of_denotes hfront hdenotes
  tooSmall := by
    rw [readInteger_eq_error_iff, readSigned_tooSmall_iff]
    refine and_iff_right_of_imp ?_
    rintro ⟨front, n, hfront, hdenotes, -⟩
    exact isBlankText_of_denotes hfront hdenotes
  invalidDigit := by
    rw [readInteger_eq_error_iff]
    refine and_congr_right fun hblank => readSigned_invalidDigit_iff ?_
    intro hnil
    rw [← Bool.not_eq_true] at hblank
    exact hblank (trimChars_eq_nil_iff.1 hnil)
  refused := by
    intro fault h
    obtain ⟨hblank, hread⟩ := readInteger_eq_error_iff.1 h
    rcases readSigned_eq_error hread with hnil | ⟨sign, rfl, -⟩ | rfl
    · have hall : isBlankText text = true := trimChars_eq_nil_iff.1 hnil
      rw [hall] at hblank
      cases hblank
    · cases sign with
      | absent | plus => exact .inl rfl
      | minus => exact .inr (.inl rfl)
    · exact .inr (.inr rfl)

theorem trimChars_integer {left right : String} (hleft : isBlankText left = true)
    (hright : isBlankText right = true) (n : Int) :
    trimChars (left ++ integer n ++ right).toList = (integer n).toList := by
  have hpadded : Padded (integer n).toList (left ++ integer n ++ right).toList :=
    padded_of_all left.toList right.toList (by simp) hleft hright
  exact trimChars_of_trims (trims_of_padded hpadded (denotes_integer n).trims)

/-- Every text is read as the grammar of numbers has it, and every signed 64-bit number is read from
its decimal text with blanks around it. -/
theorem readInteger_exact : (∀ text, IntegerRead text) ∧
    ∀ (n : Int) (left right : String), -2 ^ 63 ≤ n → n ≤ 2 ^ 63 - 1 → isBlankText left = true →
      isBlankText right = true → readInteger (left ++ integer n ++ right) = .ok (some n) := by
  refine ⟨integerRead, ?_⟩
  intro n left right hlow hhigh hleft hright
  rw [readInteger_eq_some_iff, trimChars_integer hleft hright]
  exact ⟨denotes_integer n, hlow, hhigh⟩

example : readInteger "-9223372036854775809x" = .error .tooSmall := by decide

/-! ### Kinds of variables -/

/-- The variable is absent or blank. -/
def IsUnset (setting : Option String) : Prop := ∀ text ∈ setting, isBlankText text = true

/-- The variable holds the number, with blanks around it. -/
def HoldsInteger (setting : Option String) (n : Int) : Prop :=
  ∃ text, setting = some text ∧ Denotes (trimChars text.toList) n ∧ Fits n

def onWords : List String := ["1", "true", "yes", "on"]

def offWords : List String := ["0", "false", "no", "off"]

/-- The variable holds one of the words, in either case and with blanks around it. -/
def HoldsWord (setting : Option String) (words : List String) : Prop :=
  ∃ text, setting = some text ∧ (trim text).toLower ∈ words

inductive Kind
  | number
  | flag

/-- A variable of the kind may be set so. -/
def Kind.Admits : Kind → Option String → Prop
  | number, setting => IsUnset setting ∨ ∃ n, HoldsInteger setting n
  | flag, setting => IsUnset setting ∨ HoldsWord setting onWords ∨ HoldsWord setting offWords

/-- A variable of the kind is refused for its text. -/
def Kind.Refuses : Kind → String → SettingFault → Prop
  | number, value, fault => ∃ numberFault, readInteger value = .error numberFault ∧
      fault = .integer numberFault
  | flag, _, fault => fault = .notAFlag

/-- The variables that may be at fault, in the order in which they are read. -/
def checked : List (String × Kind) :=
  [("DEFAULT_ID", .number), ("DEFAULT_LEVEL", .number), ("ESCAPE", .flag)]

/-- The variable holds the number, or it is unset and the number is the default. -/
def Gives (default : Int) (setting : Option String) (n : Int) : Prop :=
  HoldsInteger setting n ∨ (IsUnset setting ∧ n = default)

/-- The settings are what the four variables hold. -/
structure Reflects (stem : String) (lookup : String → Option String) (settings : Settings) :
    Prop where
  ruleId : Gives 100100 (lookup (stem ++ "DEFAULT_ID")) settings.ruleId
  level : Gives 5 (lookup (stem ++ "DEFAULT_LEVEL")) settings.level
  escapeOutput : settings.escapeOutput = true ↔ HoldsWord (lookup (stem ++ "ESCAPE")) onWords
  logLevel : ∀ text, settings.logLevel = some text ↔
    lookup (stem ++ "LOG") = some text ∧ isBlankText text = false

/-- Reading ends at the variable, and the error has its whole name and the text it was given. -/
def StopsAt (stem : String) (lookup : String → Option String) (name : String) (kind : Kind) :
    Prop :=
  ∃ value fault, lookup (stem ++ name) = some value ∧ kind.Refuses value fault ∧
    read stem lookup = .error ⟨stem ++ name, value, fault⟩

/-- What reading settings gives. -/
structure ReadExactly (stem : String) (lookup : String → Option String) : Prop where
  depends : ∀ other : String → Option String,
    (∀ name ∈ ["LOG", "DEFAULT_ID", "DEFAULT_LEVEL", "ESCAPE"],
      other (stem ++ name) = lookup (stem ++ name)) → read stem other = read stem lookup
  accepted : (∃ settings, read stem lookup = .ok settings) ↔
    ∀ entry ∈ checked, entry.2.Admits (lookup (stem ++ entry.1))
  reflects : ∀ settings, read stem lookup = .ok settings → Reflects stem lookup settings
  refused : ∀ before name kind after, checked = before ++ (name, kind) :: after →
    (∀ entry ∈ before, entry.2.Admits (lookup (stem ++ entry.1))) →
    ¬kind.Admits (lookup (stem ++ name)) → StopsAt stem lookup name kind

theorem toList_toLower_trim (text : String) :
    (trim text).toLower.toList = (trimChars text.toList).map Char.toLower := by
  show ((trim text).map Char.toLower).toList = _
  rw [String.toList_map, trim, String.toList_ofList]

theorem readFlag?_eq (text : String) : readFlag? text =
    if (trim text).toLower ∈ onWords then some true
    else if (trim text).toLower = "" ∨ (trim text).toLower ∈ offWords then some false
    else none := by
  have hword : String.ofList ((trimChars text.toList).map Char.toLower) = (trim text).toLower := by
    rw [← toList_toLower_trim, String.ofList_toList]
  rw [readFlag?, hword]
  simp [onWords, offWords, or_comm, or_left_comm]

theorem toLower_trim_eq_empty_iff : (trim text).toLower = "" ↔ isBlankText text = true := by
  rw [← String.toList_inj, toList_toLower_trim]
  simp [trimChars_eq_nil_iff, isBlankText]

theorem gives_iff_sets : Gives default setting n ↔ Sets default setting n := by
  constructor
  · rintro (⟨text, rfl, hnumber⟩ | ⟨hunset, rfl⟩)
    · exact .integer (readSigned_eq_ok_iff.2 hnumber)
    · exact .blank hunset
  · intro h
    cases h with
    | integer hread => exact .inl ⟨_, rfl, readSigned_eq_ok_iff.1 hread⟩
    | blank hunset => exact .inr ⟨hunset, rfl⟩

theorem integerOr_eq_ok_iff : integerOr default name setting = .ok n ↔ Gives default setting n := by
  rw [gives_iff_sets]
  constructor
  · exact fun h => (sets_iff h).2 rfl
  · intro h
    cases setting with
    | none =>
      cases h
      rfl
    | some text =>
      rw [integerOr]
      obtain hread | ⟨hread, rfl⟩ := sets_some_iff.1 h
      · rw [hread]
        rfl
      · rw [hread]
        rfl

theorem readFlag?_eq_true_iff :
    readFlag? text = some true ↔ (trim text).toLower ∈ onWords := by
  rw [readFlag?_eq]
  split
  · next hon => simp [hon]
  · next hon => split <;> simp [hon]

theorem readFlag?_ne_none_iff : readFlag? text ≠ none ↔
    isBlankText text = true ∨ (trim text).toLower ∈ onWords ∨ (trim text).toLower ∈ offWords := by
  rw [readFlag?_eq, ← toLower_trim_eq_empty_iff]
  split
  · next hon => simp [hon]
  · next hon => split <;> simp_all

namespace Kind

theorem admits_number_iff :
    number.Admits setting ↔ ∃ n, integerOr default name setting = .ok n := by
  simp only [integerOr_eq_ok_iff]
  constructor
  · rintro (hunset | ⟨n, hn⟩)
    · exact ⟨default, .inr ⟨hunset, rfl⟩⟩
    · exact ⟨n, .inl hn⟩
  · rintro ⟨n, hn | ⟨hunset, -⟩⟩
    · exact .inr ⟨n, hn⟩
    · exact .inl hunset

theorem admits_flag_iff : flag.Admits setting ↔ ∃ on, Settings.flag name setting = .ok on := by
  cases setting with
  | none => simp [Admits, IsUnset, Settings.flag]
  | some text =>
    have hread : (∃ on, Settings.flag name (some text) = .ok on) ↔ readFlag? text ≠ none := by
      rw [Settings.flag]
      cases readFlag? text <;> simp
    rw [hread, readFlag?_ne_none_iff]
    simp [Admits, IsUnset, HoldsWord]

end Kind

theorem integerOr_of_not_admits (h : ¬Kind.number.Admits setting) :
    ∃ value fault, setting = some value ∧ Kind.number.Refuses value fault ∧
      integerOr default name setting = .error ⟨name, value, fault⟩ := by
  cases hread : integerOr default name setting with
  | ok n => exact absurd (Kind.admits_number_iff.2 ⟨n, hread⟩) h
  | error e =>
    cases setting with
    | none => cases hread
    | some text =>
      rw [integerOr] at hread
      split at hread
      · cases hread
      · next fault hfault =>
        cases hread
        exact ⟨text, _, rfl, ⟨fault, hfault, rfl⟩, rfl⟩

theorem flag_of_not_admits (h : ¬Kind.flag.Admits setting) :
    ∃ value fault, setting = some value ∧ Kind.flag.Refuses value fault ∧
      flag name setting = .error ⟨name, value, fault⟩ := by
  cases hread : flag name setting with
  | ok on => exact absurd (Kind.admits_flag_iff.2 ⟨on, hread⟩) h
  | error e =>
    cases setting with
    | none => cases hread
    | some text =>
      rw [flag] at hread
      split at hread
      · cases hread
      · cases hread
        exact ⟨text, _, rfl, rfl, rfl⟩

/-! ### All variables -/

theorem read_congr {other : String → Option String}
    (h : ∀ name ∈ ["LOG", "DEFAULT_ID", "DEFAULT_LEVEL", "ESCAPE"],
      other (stem ++ name) = lookup (stem ++ name)) : read stem other = read stem lookup := by
  simp only [List.forall_mem_cons] at h
  obtain ⟨hlog, hid, hlevel, hescape, -⟩ := h
  rw [read, read, hlog, hid, hlevel, hescape]

theorem logLevel_of_read (h : read stem lookup = .ok settings) :
    settings.logLevel = (lookup (stem ++ "LOG")).filter fun text => !isBlankText text := by
  unfold read at h
  obtain ⟨ruleId, -, h⟩ := except_bind_eq_ok h
  obtain ⟨level, -, h⟩ := except_bind_eq_ok h
  obtain ⟨escapeOutput, -, h⟩ := except_bind_eq_ok h
  cases h
  rfl

theorem reflects_of_read (h : read stem lookup = .ok settings) : Reflects stem lookup settings := by
  obtain ⟨hid, hlevel, hescape⟩ := read_eq_ok h
  refine ⟨integerOr_eq_ok_iff.1 hid, integerOr_eq_ok_iff.1 hlevel, ?_, ?_⟩
  · rw [flag_iff hescape]
    simp only [readFlag?_eq_true_iff, HoldsWord]
  · intro text
    rw [logLevel_of_read h]
    simp [Option.filter_eq_some_iff]

theorem forall_checked_iff {p : String × Kind → Prop} : (∀ entry ∈ checked, p entry) ↔
    p ("DEFAULT_ID", .number) ∧ p ("DEFAULT_LEVEL", .number) ∧ p ("ESCAPE", .flag) := by
  simp [checked]

theorem exists_read_eq_ok_iff : (∃ settings, read stem lookup = .ok settings) ↔
    ∀ entry ∈ checked, entry.2.Admits (lookup (stem ++ entry.1)) := by
  rw [forall_checked_iff]
  constructor
  · rintro ⟨settings, h⟩
    obtain ⟨hid, hlevel, hescape⟩ := read_eq_ok h
    exact ⟨Kind.admits_number_iff.2 ⟨_, hid⟩, Kind.admits_number_iff.2 ⟨_, hlevel⟩,
      Kind.admits_flag_iff.2 ⟨_, hescape⟩⟩
  · rintro ⟨hid, hlevel, hescape⟩
    obtain ⟨ruleId, hid⟩ := Kind.admits_number_iff.1 hid
    obtain ⟨level, hlevel⟩ := Kind.admits_number_iff.1 hlevel
    obtain ⟨on, hescape⟩ := Kind.admits_flag_iff.1 hescape
    rw [read, hid, hlevel, hescape]
    exact ⟨_, rfl⟩

theorem stopsAt_ruleId (h : ¬Kind.number.Admits (lookup (stem ++ "DEFAULT_ID"))) :
    StopsAt stem lookup "DEFAULT_ID" .number := by
  obtain ⟨value, fault, hvalue, hrefuses, herror⟩ := integerOr_of_not_admits h
  refine ⟨value, fault, hvalue, hrefuses, ?_⟩
  rw [read, herror]
  rfl

theorem stopsAt_level (hid : Kind.number.Admits (lookup (stem ++ "DEFAULT_ID")))
    (h : ¬Kind.number.Admits (lookup (stem ++ "DEFAULT_LEVEL"))) :
    StopsAt stem lookup "DEFAULT_LEVEL" .number := by
  obtain ⟨ruleId, hid⟩ := Kind.admits_number_iff.1 hid
  obtain ⟨value, fault, hvalue, hrefuses, herror⟩ := integerOr_of_not_admits h
  refine ⟨value, fault, hvalue, hrefuses, ?_⟩
  rw [read, hid, herror]
  rfl

theorem stopsAt_escapeOutput (hid : Kind.number.Admits (lookup (stem ++ "DEFAULT_ID")))
    (hlevel : Kind.number.Admits (lookup (stem ++ "DEFAULT_LEVEL")))
    (h : ¬Kind.flag.Admits (lookup (stem ++ "ESCAPE"))) : StopsAt stem lookup "ESCAPE" .flag := by
  obtain ⟨ruleId, hid⟩ := Kind.admits_number_iff.1 hid
  obtain ⟨level, hlevel⟩ := Kind.admits_number_iff.1 hlevel
  obtain ⟨value, fault, hvalue, hrefuses, herror⟩ := flag_of_not_admits h
  refine ⟨value, fault, hvalue, hrefuses, ?_⟩
  rw [read, hid, hlevel, herror]
  rfl

theorem stopsAt_of_checked {before after : List (String × Kind)} {kind : Kind}
    (hsplit : checked = before ++ (name, kind) :: after)
    (hbefore : ∀ entry ∈ before, entry.2.Admits (lookup (stem ++ entry.1)))
    (h : ¬kind.Admits (lookup (stem ++ name))) : StopsAt stem lookup name kind := by
  cases before with
  | nil =>
    cases hsplit
    exact stopsAt_ruleId h
  | cons first before =>
    cases before with
    | nil =>
      cases hsplit
      exact stopsAt_level (hbefore _ (.head _)) h
    | cons second before =>
      cases before with
      | nil =>
        cases hsplit
        exact stopsAt_escapeOutput (hbefore _ (.head _)) (hbefore _ (.tail _ (.head _))) h
      | cons third before =>
        have hlength := congrArg List.length hsplit
        simp [checked] at hlength

/-- Every stem and every lookup are read as the variables have it. -/
theorem read_exact (stem : String) (lookup : String → Option String) : ReadExactly stem lookup where
  depends := fun _ => read_congr
  accepted := exists_read_eq_ok_iff
  reflects := fun _ => reflects_of_read
  refused := fun _ _ _ _ => stopsAt_of_checked

end DetectionRule.Settings
