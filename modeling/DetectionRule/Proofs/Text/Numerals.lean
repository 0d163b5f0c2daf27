import DetectionRule.Proofs.Text.Cutting
import DetectionRule.Text.Decimal
import Mathlib.Algebra.Group.Int.Defs

/-!
# Which texts are integers

An integer is one digit or more behind a sign, or without one (`Denotes`). Reading takes the digits
one by one and stops where they pass the limit, or where a character is none. So a text is read when
it denotes a number within the limits (`readSigned_eq_ok_iff`), and it is refused as too large or
too small when it begins with a number that is (`readSigned_tooLarge_iff`,
`readSigned_tooSmall_iff`), whatever comes behind.
-/

namespace DetectionRule.Text.Decimal

/-- One digit or more. -/
structure IsDigits (cs : List Char) : Prop where
  ne_nil : cs ≠ []
  digit : ∀ c ∈ cs, c.isDigit = true

inductive Sign
  | absent
  | plus
  | minus
deriving DecidableEq

namespace Sign

def text : Sign → List Char
  | absent => []
  | plus => ['+']
  | minus => ['-']

def apply : Sign → Nat → Int
  | minus, n => -n
  | _, n => n

/-- As far as a number with the sign may be from zero. -/
def limit : Sign → Nat
  | minus => maxSigned + 1
  | _ => maxSigned

def beyond : Sign → Fault
  | minus => .tooSmall
  | _ => .tooLarge

end Sign

/-- The text is the number in decimal digits, leading zeros among them. -/
inductive Denotes : List Char → Int → Prop
  | digits (sign : Sign) {digits : List Char} (h : IsDigits digits) :
      Denotes (sign.text ++ digits) (sign.apply (Nat.ofDigitChars 10 digits 0))

/-- The number is a signed 64-bit number. -/
def Fits (n : Int) : Prop := -2 ^ 63 ≤ n ∧ n ≤ 2 ^ 63 - 1

variable {cs rest : List Char} {c : Char} {limit value n : Nat} {beyond fault : Fault} {m : Int}
  {sign : Sign}

theorem digit?_of_isDigit (h : c.isDigit = true) : digit? c = some (c.toNat - '0'.toNat) := if_pos h

theorem digit?_of_not_isDigit (h : ¬c.isDigit = true) : digit? c = none := if_neg h

theorem le_ofDigitChars (cs : List Char) (value : Nat) : value ≤ Nat.ofDigitChars 10 cs value := by
  have hpos : 0 < 10 ^ cs.length := Nat.pow_pos (by decide)
  have hmul : 1 * value ≤ 10 ^ cs.length * value := Nat.mul_le_mul_right value hpos
  rw [Nat.ofDigitChars_eq_ofDigitChars_zero]
  omega

/-! ### Reading digits -/

/-- The digits at the beginning, behind those that gave `value`, pass the limit somewhere. -/
def Passes (limit value : Nat) (cs : List Char) : Prop :=
  ∃ front, front <+: cs ∧ (∀ c ∈ front, c.isDigit = true) ∧
    limit < Nat.ofDigitChars 10 front value

theorem passes_nil_iff : Passes limit value [] ↔ limit < value := by
  constructor
  · rintro ⟨front, hfront, -, hlimit⟩
    rw [List.prefix_nil.1 hfront] at hlimit
    exact hlimit
  · intro h
    exact ⟨[], List.prefix_rfl, nofun, h⟩

theorem passes_cons_iff (hvalue : value ≤ limit) : Passes limit value (c :: cs) ↔
    c.isDigit = true ∧ Passes limit (10 * value + (c.toNat - '0'.toNat)) cs := by
  constructor
  · rintro ⟨front, hfront, hdigits, hlimit⟩
    rcases List.prefix_cons_iff.1 hfront with rfl | ⟨back, rfl, hback⟩
    · exact absurd hlimit (Nat.not_lt.2 hvalue)
    · rw [Nat.ofDigitChars_cons] at hlimit
      exact ⟨hdigits c List.mem_cons_self, back, hback,
        fun d hd => hdigits d (List.mem_cons_of_mem _ hd), hlimit⟩
  · rintro ⟨hc, back, hback, hdigits, hlimit⟩
    refine ⟨c :: back, (List.prefix_cons_inj c).2 hback, ?_, ?_⟩
    · exact List.forall_mem_cons.2 ⟨hc, hdigits⟩
    · rw [Nat.ofDigitChars_cons]
      exact hlimit

theorem Passes.of_lt (h : limit < value) (cs : List Char) : Passes limit value cs :=
  ⟨[], List.nil_prefix, nofun, h⟩

theorem readDigits_cons_of_isDigit (h : c.isDigit = true) :
    readDigits limit beyond value (c :: cs) =
      if 10 * value + (c.toNat - '0'.toNat) ≤ limit then
        readDigits limit beyond (10 * value + (c.toNat - '0'.toNat)) cs
      else .error beyond := by
  rw [readDigits, digit?_of_isDigit h, Nat.mul_comm value 10]

theorem readDigits_cons_of_not_isDigit (h : ¬c.isDigit = true) :
    readDigits limit beyond value (c :: cs) = .error .invalidDigit := by
  rw [readDigits, digit?_of_not_isDigit h]

theorem readDigits_of_passes (hvalue : value ≤ limit) (h : Passes limit value cs) :
    readDigits limit beyond value cs = .error beyond := by
  -- By induction on the characters: as long as nothing has passed the limit, what was read so far
  -- is within it.
  induction cs generalizing value with
  | nil => exact absurd (passes_nil_iff.1 h) (Nat.not_lt.2 hvalue)
  | cons c cs ih =>
    obtain ⟨hc, hrest⟩ := (passes_cons_iff hvalue).1 h
    rw [readDigits_cons_of_isDigit hc]
    split
    · next hnext => exact ih hnext hrest
    · rfl

theorem readDigits_of_digits (hdigits : ∀ c ∈ cs, c.isDigit = true)
    (hlimit : Nat.ofDigitChars 10 cs value ≤ limit) :
    readDigits limit beyond value cs = .ok (Nat.ofDigitChars 10 cs value) := by
  induction cs generalizing value with
  | nil => rfl
  | cons c cs ih =>
    obtain ⟨hc, hcs⟩ := List.forall_mem_cons.1 hdigits
    rw [Nat.ofDigitChars_cons] at hlimit ⊢
    have hnext := Nat.le_trans (le_ofDigitChars cs _) hlimit
    rw [readDigits_cons_of_isDigit hc, if_pos hnext, ih hcs hlimit]

theorem readDigits_of_other (hvalue : value ≤ limit) (hpass : ¬Passes limit value cs)
    (hother : ¬∀ c ∈ cs, c.isDigit = true) :
    readDigits limit beyond value cs = .error .invalidDigit := by
  induction cs generalizing value with
  | nil => exact absurd nofun hother
  | cons c cs ih =>
    by_cases hc : c.isDigit = true
    · rw [passes_cons_iff hvalue, not_and] at hpass
      rw [List.forall_mem_cons, not_and] at hother
      have hnext : 10 * value + (c.toNat - '0'.toNat) ≤ limit :=
        Nat.not_lt.1 fun hpast => hpass hc (.of_lt hpast cs)
      rw [readDigits_cons_of_isDigit hc, if_pos hnext, ih hnext (hpass hc) (hother hc)]
    · exact readDigits_cons_of_not_isDigit hc

/-- The three ways in which reading a number ends. -/
inductive NumberRead (limit : Nat) (beyond : Fault) (cs : List Char) : Except Fault Nat → Prop
  | number (digits : IsDigits cs) (h : Nat.ofDigitChars 10 cs 0 ≤ limit) :
      NumberRead limit beyond cs (.ok (Nat.ofDigitChars 10 cs 0))
  | past (h : Passes limit 0 cs) : NumberRead limit beyond cs (.error beyond)
  | other (digits : ¬IsDigits cs) (h : ¬Passes limit 0 cs) :
      NumberRead limit beyond cs (.error .invalidDigit)

theorem readNumber_eq_readDigits (h : cs ≠ []) :
    readNumber limit beyond cs = readDigits limit beyond 0 cs := by
  cases cs with
  | nil => exact absurd rfl h
  | cons c cs => rfl

theorem numberRead (limit : Nat) (beyond : Fault) (cs : List Char) :
    NumberRead limit beyond cs (readNumber limit beyond cs) := by
  by_cases hnil : cs = []
  · rw [hnil]
    exact .other (fun h => h.ne_nil rfl) (fun h => Nat.not_lt_zero _ (passes_nil_iff.1 h))
  rw [readNumber_eq_readDigits hnil]
  by_cases hpass : Passes limit 0 cs
  · rw [readDigits_of_passes (Nat.zero_le _) hpass]
    exact .past hpass
  by_cases hdigits : ∀ c ∈ cs, c.isDigit = true
  · have hlimit : Nat.ofDigitChars 10 cs 0 ≤ limit :=
      Nat.not_lt.1 fun hpast => hpass ⟨cs, List.prefix_rfl, hdigits, hpast⟩
    rw [readDigits_of_digits hdigits hlimit]
    exact .number ⟨hnil, hdigits⟩ hlimit
  · rw [readDigits_of_other (Nat.zero_le _) hpass hdigits]
    exact .other (fun h => hdigits h.digit) hpass

theorem readNumber_eq_ok_iff : readNumber limit beyond cs = .ok n ↔
    IsDigits cs ∧ n = Nat.ofDigitChars 10 cs 0 ∧ n ≤ limit := by
  constructor
  · intro h
    have hread := numberRead limit beyond cs
    rw [h] at hread
    cases hread with
    | number digits hlimit => exact ⟨digits, rfl, hlimit⟩
  · rintro ⟨hdigits, rfl, hlimit⟩
    rw [readNumber_eq_readDigits hdigits.ne_nil]
    exact readDigits_of_digits hdigits.digit hlimit

theorem readNumber_of_passes (h : Passes limit 0 cs) :
    readNumber limit beyond cs = .error beyond := by
  have hnil : cs ≠ [] := by
    rintro rfl
    exact Nat.not_lt_zero _ (passes_nil_iff.1 h)
  rw [readNumber_eq_readDigits hnil]
  exact readDigits_of_passes (Nat.zero_le _) h

theorem readNumber_eq_error (h : readNumber limit beyond cs = .error fault) :
    (fault = beyond ∧ Passes limit 0 cs) ∨ fault = .invalidDigit := by
  have hread := numberRead limit beyond cs
  rw [h] at hread
  cases hread with
  | past hpass => exact .inl ⟨rfl, hpass⟩
  | other digits hpass => exact .inr rfl

/-! ### Signs -/

namespace Sign

/-- Behind no sign there is none. -/
def Ends (sign : Sign) (rest : List Char) : Prop :=
  sign = absent → ∀ c ∈ rest.head?, c ≠ '+' ∧ c ≠ '-'

theorem ends_of_isDigits (sign : Sign) (h : IsDigits cs) (rest : List Char) :
    sign.Ends (cs ++ rest) := by
  intro _ c hc
  cases cs with
  | nil => exact absurd rfl h.ne_nil
  | cons d cs =>
    obtain rfl : d = c := Option.some_inj.1 hc
    have hdigit := h.digit d List.mem_cons_self
    constructor
    · rintro rfl
      exact absurd hdigit (by decide)
    · rintro rfl
      exact absurd hdigit (by decide)

theorem exists_sign (cs : List Char) : ∃ sign rest, cs = text sign ++ rest ∧ sign.Ends rest := by
  by_cases hplus : cs.head? = some '+'
  · obtain ⟨rest, rfl⟩ := List.head?_eq_some_iff.1 hplus
    exact ⟨plus, rest, rfl, nofun⟩
  by_cases hminus : cs.head? = some '-'
  · obtain ⟨rest, rfl⟩ := List.head?_eq_some_iff.1 hminus
    exact ⟨minus, rest, rfl, nofun⟩
  refine ⟨absent, cs, rfl, ?_⟩
  intro _ c hc
  exact ⟨fun e => hplus (e ▸ hc), fun e => hminus (e ▸ hc)⟩

theorem fits_apply_iff : Fits (sign.apply n) ↔ n ≤ sign.limit := by
  cases sign <;> simp only [Fits, apply, limit, maxSigned] <;> omega

theorem lt_apply_iff : 2 ^ 63 - 1 < sign.apply n ↔ sign.beyond = .tooLarge ∧ sign.limit < n := by
  cases sign <;>
    simp only [apply, limit, beyond, maxSigned, reduceCtorEq, true_and, false_and, iff_false] <;>
    omega

theorem apply_lt_iff : sign.apply n < -2 ^ 63 ↔ sign.beyond = .tooSmall ∧ sign.limit < n := by
  cases sign <;>
    simp only [apply, limit, beyond, maxSigned, reduceCtorEq, true_and, false_and, iff_false] <;>
    omega

end Sign

theorem readSigned_append (hne : sign.text ++ rest ≠ []) (h : sign.Ends rest) :
    readSigned (sign.text ++ rest) = (readNumber sign.limit sign.beyond rest).map sign.apply := by
  cases sign with
  | plus => rfl
  | minus =>
    show readSigned ('-' :: rest) = (readNumber (maxSigned + 1) .tooSmall rest).map Sign.minus.apply
    rw [readSigned]
    cases readNumber (maxSigned + 1) .tooSmall rest <;> rfl
  | absent =>
    cases rest with
    | nil => exact absurd rfl hne
    | cons c rest =>
      obtain ⟨hplus, hminus⟩ := h rfl c rfl
      show readSigned (c :: rest)
        = (readNumber maxSigned .tooLarge (c :: rest)).map Sign.absent.apply
      rw [readSigned]
      · rfl
      · exact nofun
      · exact fun cs e => hminus (List.cons.inj e).1
      · exact fun cs e => hplus (List.cons.inj e).1

theorem Denotes.ne_nil (h : Denotes cs m) : cs ≠ [] := by
  cases h with
  | digits sign hdigits => exact fun e => hdigits.ne_nil (List.append_eq_nil_iff.1 e).2

theorem readSigned_eq_ok_iff : readSigned cs = .ok m ↔ Denotes cs m ∧ Fits m := by
  constructor
  · intro h
    have hne : cs ≠ [] := by
      rintro rfl
      cases h
    obtain ⟨sign, rest, rfl, hends⟩ := Sign.exists_sign cs
    rw [readSigned_append hne hends] at h
    cases hread : readNumber sign.limit sign.beyond rest with
    | error fault =>
      rw [hread] at h
      cases h
    | ok n =>
      rw [hread] at h
      cases h
      obtain ⟨hdigits, rfl, hlimit⟩ := readNumber_eq_ok_iff.1 hread
      exact ⟨.digits sign hdigits, Sign.fits_apply_iff.2 hlimit⟩
  · rintro ⟨hdenotes, hfits⟩
    have hne := hdenotes.ne_nil
    cases hdenotes with
    | @digits sign digits hdigits =>
      have hread : readNumber sign.limit sign.beyond digits
          = .ok (Nat.ofDigitChars 10 digits 0) :=
        readNumber_eq_ok_iff.2 ⟨hdigits, rfl, Sign.fits_apply_iff.1 hfits⟩
      have hends := sign.ends_of_isDigits hdigits []
      rw [List.append_nil] at hends
      rw [readSigned_append hne hends, hread]
      rfl

/-- The text begins with a number that is past the limit on the side of the sign. -/
def Overruns (sign : Sign) (cs : List Char) : Prop :=
  ∃ digits, sign.text ++ digits <+: cs ∧ IsDigits digits ∧
    sign.limit < Nat.ofDigitChars 10 digits 0

theorem readSigned_of_overruns (h : Overruns sign cs) : readSigned cs = .error sign.beyond := by
  obtain ⟨digits, ⟨back, rfl⟩, hdigits, hlimit⟩ := h
  have hpass : Passes sign.limit 0 (digits ++ back) :=
    ⟨digits, List.prefix_append .., hdigits.digit, hlimit⟩
  have hne : sign.text ++ (digits ++ back) ≠ [] := by simp [hdigits.ne_nil]
  rw [List.append_assoc, readSigned_append hne (sign.ends_of_isDigits hdigits back),
    readNumber_of_passes hpass]
  rfl

theorem readSigned_eq_error (h : readSigned cs = .error fault) :
    cs = [] ∨ (∃ sign, fault = sign.beyond ∧ Overruns sign cs) ∨ fault = .invalidDigit := by
  by_cases hne : cs = []
  · exact .inl hne
  refine .inr ?_
  obtain ⟨sign, rest, rfl, hends⟩ := Sign.exists_sign cs
  rw [readSigned_append hne hends] at h
  cases hread : readNumber sign.limit sign.beyond rest with
  | ok n =>
    rw [hread] at h
    cases h
  | error found =>
    rw [hread] at h
    cases h
    refine (readNumber_eq_error hread).imp_left ?_
    rintro ⟨rfl, front, hfront, hdigits, hlimit⟩
    have hnil : front ≠ [] := by
      rintro rfl
      exact Nat.not_lt_zero _ hlimit
    exact ⟨sign, rfl, front, (List.prefix_append_right_inj _).2 hfront, ⟨hnil, hdigits⟩, hlimit⟩

/-- A text is refused for the number at its beginning, if that is past the limits. -/
theorem readSigned_eq_beyond_iff (sign : Sign) {past : Int → Prop}
    (hpast : ∀ (other : Sign) (n : Nat),
      past (other.apply n) ↔ other.beyond = sign.beyond ∧ other.limit < n) :
    readSigned cs = .error sign.beyond ↔
      ∃ front m, front <+: cs ∧ Denotes front m ∧ past m := by
  constructor
  · intro h
    rcases readSigned_eq_error h with rfl | ⟨other, hbeyond, digits, hfront, hdigits, hlimit⟩ | h
    · cases sign <;> cases h
    · exact ⟨_, _, hfront, .digits other hdigits, (hpast other _).2 ⟨hbeyond.symm, hlimit⟩⟩
    · cases sign <;> cases h
  · rintro ⟨front, m, hfront, hdenotes, hm⟩
    cases hdenotes with
    | digits other hdigits =>
      obtain ⟨hbeyond, hlimit⟩ := (hpast other _).1 hm
      rw [readSigned_of_overruns ⟨_, hfront, hdigits, hlimit⟩, hbeyond]

theorem readSigned_tooLarge_iff : readSigned cs = .error .tooLarge ↔
    ∃ front m, front <+: cs ∧ Denotes front m ∧ 2 ^ 63 - 1 < m :=
  readSigned_eq_beyond_iff .absent fun _ _ => Sign.lt_apply_iff

theorem readSigned_tooSmall_iff : readSigned cs = .error .tooSmall ↔
    ∃ front m, front <+: cs ∧ Denotes front m ∧ m < -2 ^ 63 :=
  readSigned_eq_beyond_iff .minus fun _ _ => Sign.apply_lt_iff

/-- What is no number, and begins with none past the limits, has a character out of place. -/
theorem readSigned_invalidDigit_iff (hne : cs ≠ []) : readSigned cs = .error .invalidDigit ↔
    (∀ m, ¬Denotes cs m) ∧ ∀ front m, front <+: cs → Denotes front m → Fits m := by
  constructor
  · intro h
    have hfits : ∀ front m, front <+: cs → Denotes front m → Fits m := by
      intro front m hfront hdenotes
      by_contra hnot
      rcases not_and_or.1 hnot with hsmall | hlarge
      · have hread := readSigned_tooSmall_iff.2 ⟨front, m, hfront, hdenotes, Int.not_le.1 hsmall⟩
        rw [h] at hread
        cases hread
      · have hread := readSigned_tooLarge_iff.2 ⟨front, m, hfront, hdenotes, Int.not_le.1 hlarge⟩
        rw [h] at hread
        cases hread
    refine ⟨?_, hfits⟩
    intro m hdenotes
    have hread := readSigned_eq_ok_iff.2 ⟨hdenotes, hfits cs m List.prefix_rfl hdenotes⟩
    rw [h] at hread
    cases hread
  · rintro ⟨hnone, hfits⟩
    cases hread : readSigned cs with
    | ok m => exact absurd (readSigned_eq_ok_iff.1 hread).1 (hnone m)
    | error fault =>
      rcases readSigned_eq_error hread with h | ⟨sign, -, digits, hfront, hdigits, hlimit⟩ | rfl
      · exact absurd h hne
      · have hin := Sign.fits_apply_iff.1 (hfits _ _ hfront (.digits sign hdigits))
        exact absurd hlimit (Nat.not_lt.2 hin)
      · rfl

/-! ### Decimal texts of numbers -/

theorem isDigits_natural (n : Nat) : IsDigits (natural n).toList where
  ne_nil := by
    rw [toList_natural]
    exact Nat.toDigits_ne_nil
  digit := fun _ => isDigit_of_mem_natural

theorem ofDigitChars_natural (n : Nat) : Nat.ofDigitChars 10 (natural n).toList 0 = n := by
  rw [toList_natural]
  exact Nat.ofDigitChars_ten_toDigits

theorem denotes_integer (m : Int) : Denotes (integer m).toList m := by
  cases m with
  | ofNat n =>
    have h := Denotes.digits .absent (isDigits_natural n)
    rw [ofDigitChars_natural] at h
    exact h
  | negSucc n =>
    have h := Denotes.digits .minus (isDigits_natural (n + 1))
    rw [ofDigitChars_natural] at h
    have htext : (integer (.negSucc n)).toList = Sign.minus.text ++ (natural (n + 1)).toList := by
      rw [integer, String.toList_append]
      rfl
    rw [htext]
    exact h

theorem isBlank_of_isDigit (h : c.isDigit = true) : isBlank c = false := by
  have hbounds : c.val ≥ '0'.val ∧ c.val ≤ '9'.val := by
    rw [Char.isDigit, Bool.and_eq_true, decide_eq_true_eq, decide_eq_true_eq] at h
    exact h
  have hlow : 0x30 ≤ c.toNat := hbounds.1
  have hhigh : c.toNat ≤ 0x39 := hbounds.2
  exact isBlank_of_visible (by omega) (by omega)

theorem Denotes.isBlank (h : Denotes cs m) : ∀ c ∈ cs, isBlank c = false := by
  cases h with
  | digits sign hdigits =>
    refine List.forall_mem_append.2 ⟨?_, fun c hc => isBlank_of_isDigit (hdigits.digit c hc)⟩
    intro c hc
    cases sign with
    | absent => cases hc
    | plus | minus =>
      rw [List.mem_singleton.1 hc]
      decide

theorem Denotes.trims (h : Denotes cs m) : Trims cs cs where
  surround := ⟨[], [], by simp, nofun, nofun⟩
  first := fun c hc => h.isBlank c (List.mem_of_head? hc)
  last := fun c hc => h.isBlank c (List.mem_of_getLast? hc)

end DetectionRule.Text.Decimal
