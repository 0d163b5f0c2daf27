import DetectionRule.Proofs.Text.Escaping

/-!
# Escaped text as an encoding

Each character is escaped by itself, so a text is escaped part by part. In escaped text an `&` only
stands where an entity begins, which is why one pass from left to right reads the text back. A text
is its own escaped form only where it has no markup character. Main statement: `escape_encodes`.
-/

namespace DetectionRule.Markup

/-- The markup characters with what is written for them. -/
def entities : List (Char × String) :=
  [('&', "&amp;"), ('<', "&lt;"), ('>', "&gt;"), ('"', "&quot;")]

/-- The escaped form of a text in any context, and what of the text can be told from it. -/
structure Encodes (s : String) : Prop where
  loop : TextMode.escaped.text s = String.ofList (escapeChars s.toList)
  append : ∀ t, escape (s ++ t) = escape s ++ escape t
  bare : ∀ c, c = '<' ∨ c = '>' ∨ c = '"' → c ∉ (escape s).toList
  ampersand : ∀ left right, escape s = left ++ "&" ++ right →
    ∃ front c back entity, s = front ++ String.singleton c ++ back ∧ (c, entity) ∈ entities ∧
      left = escape front ∧ "&" ++ right = entity ++ escape back
  readBack : unescape (escape s) = s
  unchanged : escape s = s ↔ ∀ entry ∈ entities, entry.1 ∉ s.toList
  longer : escape s ≠ s → s.length < (escape s).length

variable {c : Char} {cs left right : List Char}

theorem mem_entities (h : isMarkup c = true) : (c, String.ofList (escapeChar c)) ∈ entities := by
  rcases isMarkup_iff.1 h with rfl | rfl | rfl | rfl <;> decide

theorem isMarkup_of_mem_entities : ∀ entry ∈ entities, isMarkup entry.1 = true := by
  decide

/-- An entity has its `&` in front and no other. -/
theorem ampersand_not_mem_tail (c : Char) : '&' ∉ (escapeChar c).tail := by
  by_cases h : isMarkup c = true
  · rcases isMarkup_iff.1 h with rfl | rfl | rfl | rfl <;> decide
  · rw [escapeChar_of_not_isMarkup (by simpa using h)]
    exact List.not_mem_nil

theorem isMarkup_of_head? (h : (escapeChar c).head? = some '&') : isMarkup c = true := by
  by_contra hplain
  rw [escapeChar_of_not_isMarkup (by simpa using hplain)] at h
  cases h
  exact hplain rfl

/-- Wherever escaped text is cut before an `&`, the text itself is cut before a markup character. -/
theorem exists_of_escapeChars_eq (h : escapeChars cs = left ++ '&' :: right) :
    ∃ front c back, cs = front ++ c :: back ∧ isMarkup c = true ∧ left = escapeChars front ∧
      '&' :: right = escapeChar c ++ escapeChars back := by
  induction cs generalizing left with
  | nil => simp at h
  | cons d ds ih =>
    rw [escapeChars_cons, List.append_eq_append_iff] at h
    obtain ⟨rest, rfl, hrest⟩ | ⟨rest, hd, hrest⟩ := h
    · obtain ⟨front, c, back, rfl, hc, rfl, hright⟩ := ih hrest
      exact ⟨d :: front, c, back, rfl, hc, rfl, hright⟩
    · cases rest with
      | nil =>
        -- The cut is right behind what is written for `d`.
        have hnext : escapeChars ds = [] ++ '&' :: right := hrest.symm
        obtain ⟨front, c, back, rfl, hc, hfront, hright⟩ := ih hnext
        refine ⟨d :: front, c, back, rfl, hc, ?_, hright⟩
        rw [escapeChars_cons, ← hfront, hd, List.append_nil, List.append_nil]
      | cons e rest =>
        obtain ⟨rfl, -⟩ := List.cons.inj hrest
        cases left with
        | nil =>
          refine ⟨[], d, ds, rfl, isMarkup_of_head? ?_, rfl, ?_⟩
          · rw [hd]
            rfl
          · rw [hrest, hd, List.nil_append]
        | cons a left =>
          have htail : '&' ∈ (escapeChar d).tail := by simp [hd]
          exact absurd htail (ampersand_not_mem_tail d)

theorem escape_eq_ofList (s : String) : escape s = String.ofList (escapeChars s.toList) := by
  rw [← toList_escape, String.ofList_toList]

theorem escape_append (s t : String) : escape (s ++ t) = escape s ++ escape t := by
  rw [← String.toList_inj]
  simp only [String.toList_append, toList_escape, escapeChars_append]

theorem escape_encodes (s : String) : Encodes s where
  loop := escape_eq_ofList s
  append := escape_append s
  bare := by
    intro c hc
    rw [toList_escape]
    exact not_mem_escapeChars hc s.toList
  ampersand := by
    intro left right h
    have hcut : escapeChars s.toList = left.toList ++ '&' :: right.toList := by
      rw [← toList_escape, h]
      simp
    obtain ⟨front, c, back, hs, hc, hleft, hright⟩ := exists_of_escapeChars_eq hcut
    refine ⟨String.ofList front, c, String.ofList back, _, ?_, mem_entities hc, ?_, ?_⟩ <;>
      rw [← String.toList_inj]
    · simp [hs]
    · simp [toList_escape, hleft]
    · simp [toList_escape, hright]
  readBack := unescape_escape s
  unchanged := by
    rw [escape_eq_self_iff, occursIn, List.any_eq_false]
    constructor
    · intro h entry hentry hmem
      exact h entry.1 hmem (isMarkup_of_mem_entities entry hentry)
    · intro h c hmem hc
      exact h _ (mem_entities hc) hmem
  longer := by
    intro h
    rw [Ne, escape_eq_self_iff, Bool.not_eq_false] at h
    rw [← String.length_toList, ← String.length_toList, toList_escape]
    exact length_lt_escapeChars h

example : escape "&lt;" = "&amp;lt;" := by decide

end DetectionRule.Markup
