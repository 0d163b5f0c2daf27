import DetectionRule.Markup
import DetectionRule.Text.Decimal
import Mathlib.Data.List.Basic

/-!
# Texts with entities in them

Escaping makes a text longer by every markup character in it, so a text is its own escaped form
only where it has none (`escape_eq_self_iff`). Reading back goes straight through text without `&`
and undoes what escaping did wherever the escaped text stands.
-/

namespace DetectionRule

namespace Markup

variable {c : Char} {cs : List Char}

theorem one_lt_length_escapeChar (h : isMarkup c = true) : 1 < (escapeChar c).length := by
  rcases isMarkup_iff.1 h with rfl | rfl | rfl | rfl <;> decide

theorem one_le_length_escapeChar (c : Char) : 1 ≤ (escapeChar c).length := by
  by_cases h : isMarkup c = true
  · exact Nat.le_of_lt (one_lt_length_escapeChar h)
  · rw [escapeChar_of_not_isMarkup (by simpa using h)]
    exact Nat.le_refl 1

theorem length_le_escapeChars (cs : List Char) : cs.length ≤ (escapeChars cs).length := by
  induction cs with
  | nil => exact Nat.le_refl 0
  | cons c cs ih =>
    have hc := one_le_length_escapeChar c
    rw [escapeChars_cons, List.length_append, List.length_cons]
    omega

theorem length_lt_escapeChars (h : cs.any isMarkup = true) :
    cs.length < (escapeChars cs).length := by
  induction cs with
  | nil => cases h
  | cons c cs ih =>
    have hle := length_le_escapeChars cs
    have hc := one_le_length_escapeChar c
    rw [escapeChars_cons, List.length_append, List.length_cons]
    rw [List.any_cons, Bool.or_eq_true] at h
    rcases h with h | h
    · have hlong := one_lt_length_escapeChar h
      omega
    · have hlong := ih h
      omega

theorem escapeChars_eq_self_iff : escapeChars cs = cs ↔ cs.any isMarkup = false := by
  constructor
  · intro h
    rw [← Bool.not_eq_true]
    intro hm
    have hlong := length_lt_escapeChars hm
    rw [h] at hlong
    exact Nat.lt_irrefl _ hlong
  · exact escapeChars_of_all_not_isMarkup

theorem escape_eq_self_iff {s : String} : escape s = s ↔ occursIn s = false := by
  rw [← String.toList_inj, toList_escape]
  exact escapeChars_eq_self_iff

/-- Of the four characters only `&` stands in escaped text. -/
theorem not_mem_escapeChars (h : c = '<' ∨ c = '>' ∨ c = '"') (cs : List Char) :
    c ∉ escapeChars cs := by
  intro hc
  obtain ⟨d, -, hd⟩ := List.mem_flatMap.1 hc
  by_cases hm : isMarkup d = true
  · rcases isMarkup_iff.1 hm with rfl | rfl | rfl | rfl <;> rcases h with rfl | rfl | rfl <;>
      exact absurd hd (by decide)
  · rw [escapeChar_of_not_isMarkup (by simpa using hm), List.mem_singleton] at hd
    subst hd
    rcases h with rfl | rfl | rfl <;> exact hm rfl

theorem not_mem_of_escapeChars_eq_self (h : escapeChars cs = cs) (hc : isMarkup c = true) :
    c ∉ cs := by
  intro hm
  exact List.any_eq_false.1 (escapeChars_eq_self_iff.1 h) c hm hc

/-! ### Reading back -/

theorem unescapeChars_escapeChars (cs : List Char) : unescapeChars (escapeChars cs) = cs := by
  have h := unescapeChars_escapeChars_append cs []
  rwa [List.append_nil, unescapeChars, List.append_nil] at h

theorem unescapeChars_append (h : '&' ∉ cs) (ds : List Char) :
    unescapeChars (cs ++ ds) = cs ++ unescapeChars ds := by
  induction cs with
  | nil => rfl
  | cons c cs ih =>
    have hc : c ≠ '&' := fun e => h (e ▸ List.mem_cons_self)
    have hcs : '&' ∉ cs := fun hm => h (List.mem_cons_of_mem _ hm)
    rw [List.cons_append, unescapeChars_cons_of_ne hc, ih hcs, List.cons_append]

end Markup

namespace TextMode

theorem verbatim_eq_escaped_iff {s : String} :
    verbatim.text s = escaped.text s ↔ Markup.occursIn s = false := by
  rw [← Markup.escape_eq_self_iff]
  exact eq_comm

theorem length_verbatim_le_escaped (s : String) :
    (verbatim.text s).toList.length ≤ (escaped.text s).toList.length := by
  show s.toList.length ≤ (Markup.escape s).toList.length
  rw [Markup.toList_escape]
  exact Markup.length_le_escapeChars s.toList

theorem length_verbatim_lt_escaped {s : String} (h : Markup.occursIn s = true) :
    (verbatim.text s).toList.length < (escaped.text s).toList.length := by
  show s.toList.length < (Markup.escape s).toList.length
  rw [Markup.toList_escape]
  exact Markup.length_lt_escapeChars h

end TextMode

namespace Text.Decimal
open Markup

theorem escapeChars_natural (n : Nat) :
    escapeChars (natural n).toList = (natural n).toList := by
  rw [escapeChars_eq_self_iff, List.any_eq_false]
  intro c hc hm
  have hd : c.isDigit = true := isDigit_of_mem_natural hc
  rcases isMarkup_iff.1 hm with rfl | rfl | rfl | rfl <;> exact absurd hd (by decide)

theorem escapeChars_integer (n : Int) :
    escapeChars (integer n).toList = (integer n).toList := by
  cases n with
  | ofNat n => exact escapeChars_natural n
  | negSucc n =>
    have hminus : escapeChars "-".toList = "-".toList := by decide
    rw [integer, String.toList_append, escapeChars_append, escapeChars_natural, hminus]

end Text.Decimal

end DetectionRule
