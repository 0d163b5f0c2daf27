import DetectionRule.CommandLine.Settings

/-!
# Reading settings

A variable that is absent or blank leaves the default, and any other sets the number or the flag
that its text is. The settings hold what the variables set one by one, and an error has the name and
the text of one of them.
-/

namespace DetectionRule

theorem except_bind_eq_ok {ε α β : Type} {x : Except ε α} {f : α → Except ε β} {b : β}
    (h : x >>= f = .ok b) : ∃ a, x = .ok a ∧ f a = .ok b := by
  cases x with
  | error e => cases h
  | ok a => exact ⟨a, rfl, h⟩

theorem except_bind_eq_error {ε α β : Type} {x : Except ε α} {f : α → Except ε β} {e : ε}
    (h : x >>= f = .error e) : x = .error e ∨ ∃ a, x = .ok a ∧ f a = .error e := by
  cases x with
  | error e =>
    cases h
    exact .inl rfl
  | ok a => exact .inr ⟨a, rfl, h⟩

namespace Settings

/-- The number that a variable sets, or the default where it is absent or blank. -/
inductive Sets (default : Int) : Option String → Int → Prop
  | integer {text : String} {n : Int}
      (h : Text.Decimal.readSigned (Text.trimChars text.toList) = .ok n) :
      Sets default (some text) n
  | blank {setting : Option String} (h : ∀ text ∈ setting, Text.isBlankText text = true) :
      Sets default setting default

variable {lookup : String → Option String} {stem name : String} {setting : Option String}
  {default n number : Int} {on : Bool} {settings : Settings} {e : SettingError}

theorem readInteger_of_isBlankText {text : String} (h : Text.isBlankText text = true) :
    readInteger text = .ok none := by
  rw [readInteger, Text.trimChars_eq_nil_iff.2 h]

theorem readInteger_of_not_isBlankText {text : String} (h : ¬Text.isBlankText text = true) :
    readInteger text = (Text.Decimal.readSigned (Text.trimChars text.toList)).map some := by
  rw [readInteger]
  cases htrim : Text.trimChars text.toList with
  | nil => exact absurd (Text.trimChars_eq_nil_iff.1 htrim) h
  | cons c cs => rfl

theorem sets_some_iff {text : String} :
    Sets default (some text) n ↔ readInteger text = .ok (some n) ∨
      (readInteger text = .ok none ∧ n = default) := by
  by_cases hblank : Text.isBlankText text = true
  · rw [readInteger_of_isBlankText hblank]
    constructor
    · rintro (h | -)
      · rw [Text.trimChars_eq_nil_iff.2 hblank] at h
        cases h
      · exact .inr ⟨rfl, rfl⟩
    · rintro (h | ⟨-, rfl⟩)
      · cases h
      · exact .blank fun _ ht => Option.some.inj ht ▸ hblank
  · rw [readInteger_of_not_isBlankText hblank]
    constructor
    · rintro (h | h)
      · rw [h]
        exact .inl rfl
      · exact absurd (h text rfl) hblank
    · intro h
      cases hread : Text.Decimal.readSigned (Text.trimChars text.toList) with
      | error fault => simp [hread, Except.map] at h
      | ok m =>
        simp only [hread, Except.map, Except.ok.injEq, Option.some_inj, reduceCtorEq, false_and,
          or_false] at h
        exact .integer (h ▸ hread)

theorem sets_iff (h : integerOr default name setting = .ok number) :
    Sets default setting n ↔ n = number := by
  cases setting with
  | none =>
    cases h
    constructor
    · rintro ⟨⟩
      rfl
    · rintro rfl
      exact .blank nofun
  | some text =>
    rw [sets_some_iff]
    rw [integerOr] at h
    cases hread : readInteger text with
    | error fault => simp [hread] at h
    | ok m =>
      rw [hread] at h
      cases h
      cases m <;> simp [eq_comm]

theorem error_of_integerOr (h : integerOr default name setting = .error e) :
    e.name = name ∧ setting = some e.value := by
  cases setting with
  | none => cases h
  | some text =>
    rw [integerOr] at h
    split at h <;> cases h
    exact ⟨rfl, rfl⟩

theorem flag_iff (h : flag name setting = .ok on) :
    on = true ↔ ∃ text, setting = some text ∧ readFlag? text = some true := by
  cases setting with
  | none =>
    cases h
    simp
  | some text =>
    rw [flag] at h
    cases hread : readFlag? text with
    | none => simp [hread] at h
    | some b =>
      simp only [hread, Except.ok.injEq] at h
      simp [h, hread]

theorem error_of_flag (h : flag name setting = .error e) :
    e.name = name ∧ setting = some e.value := by
  cases setting with
  | none => cases h
  | some text =>
    rw [flag] at h
    split at h <;> cases h
    exact ⟨rfl, rfl⟩

/-! ### All variables -/

theorem read_eq_ok (h : read stem lookup = .ok settings) :
    integerOr Header.default.id (stem ++ "DEFAULT_ID") (lookup (stem ++ "DEFAULT_ID"))
        = .ok settings.ruleId ∧
      integerOr Header.default.level (stem ++ "DEFAULT_LEVEL") (lookup (stem ++ "DEFAULT_LEVEL"))
        = .ok settings.level ∧
      flag (stem ++ "ESCAPE") (lookup (stem ++ "ESCAPE")) = .ok settings.escapeOutput := by
  unfold read at h
  obtain ⟨ruleId, hid, h⟩ := except_bind_eq_ok h
  obtain ⟨level, hlevel, h⟩ := except_bind_eq_ok h
  obtain ⟨escapeOutput, hescape, h⟩ := except_bind_eq_ok h
  cases h
  exact ⟨hid, hlevel, hescape⟩

theorem lookup_of_read_eq_error (h : read stem lookup = .error e) :
    lookup e.name = some e.value := by
  obtain ⟨name, value, fault⟩ := e
  unfold read at h
  rcases except_bind_eq_error h with h | ⟨ruleId, -, h⟩
  · obtain ⟨rfl, hvalue⟩ := error_of_integerOr h
    exact hvalue
  rcases except_bind_eq_error h with h | ⟨level, -, h⟩
  · obtain ⟨rfl, hvalue⟩ := error_of_integerOr h
    exact hvalue
  rcases except_bind_eq_error h with h | ⟨escapeOutput, -, h⟩
  · obtain ⟨rfl, hvalue⟩ := error_of_flag h
    exact hvalue
  · cases h

end Settings

end DetectionRule
