import DetectionRule.Proofs.Condition.Grammar

/-!
# Reading a printed argument

A printed argument is written as the grammar has it, when the texts in its list have no blanks at
their ends and hold neither of the two characters that end them. So reading gives it back:
`parse_print`.
-/

namespace DetectionRule.Argument

open Text

/-- A text that can stand in a list: a comma or a bracket would end it, outer blanks would be
lost. -/
def IsListText (s : String) : Prop := trim s = s ∧ ',' ∉ s.toList ∧ ']' ∉ s.toList

instance (s : String) : Decidable (IsListText s) := inferInstanceAs (Decidable (_ ∧ _ ∧ _))

def Printable (argument : Argument) : Prop := ∀ pair ∈ argument.attributes, IsListText pair.2

variable {argument : Argument} {pair : Attribute × String} {pairs : List (Attribute × String)}
  {s value : String}

theorem trims_of_isListText (h : IsListText s) : Trims s.toList s.toList := by
  have htrim : trimChars s.toList = s.toList := by
    rw [← String.toList_ofList (l := trimChars s.toList)]
    exact congrArg String.toList h.1
  exact trimChars_eq_iff.1 htrim

theorem trims_attribute (attr : Attribute) : Trims attr.text.toList attr.text.toList := by
  rw [← trimChars_eq_iff]
  cases attr <;> decide

theorem trims_tag (tag : Tag) : Trims tag.text.toList tag.text.toList := by
  rw [← trimChars_eq_iff]
  cases tag <;> decide

theorem toList_printPair (pair : Attribute × String) :
    (printPair pair).toList = pair.1.text.toList ++ '=' :: pair.2.toList := by
  simp [printPair]

theorem printPair_ne_nil (pair : Attribute × String) : (printPair pair).toList ≠ [] := by
  simp [toList_printPair]

theorem givesPair_printPair (h : IsListText pair.2) : GivesPair (printPair pair).toList pair := by
  have hname : '=' ∉ pair.1.text.toList := by cases pair.1 <;> decide
  exact ⟨pair.1.text.toList, pair.2.toList, toList_printPair pair, hname,
    trims_attribute pair.1, trims_of_isListText h⟩

/-- A pair begins with its name and ends with its text, or with the equals sign where that is
empty. -/
theorem trims_printPair (h : IsListText pair.2) :
    Trims (printPair pair).toList (printPair pair).toList where
  surround := ⟨[], [], by simp, by simp, by simp⟩
  first := by
    intro c hc
    have hne : pair.1.text.toList ≠ [] := by cases pair.1 <;> decide
    rw [toList_printPair, List.head?_append_of_ne_nil _ hne] at hc
    exact (trims_attribute pair.1).first c hc
  last := by
    intro c hc
    rw [toList_printPair, List.getLast?_append_of_ne_nil _ (List.cons_ne_nil _ _)] at hc
    cases htext : pair.2.toList with
    | nil =>
      rw [htext] at hc
      cases hc
      decide
    | cons d ds =>
      rw [htext, List.getLast?_cons_cons, ← htext] at hc
      exact (trims_of_isListText h).last c hc

theorem not_mem_printPair {c : Char} (hc : c = ',' ∨ c = ']') (h : IsListText pair.2) :
    c ∉ (printPair pair).toList := by
  have hname : c ∉ pair.1.text.toList := by
    rcases hc with rfl | rfl <;> cases pair.1 <;> decide
  have htext : c ∉ pair.2.toList := by
    rcases hc with rfl | rfl
    · exact h.2.1
    · exact h.2.2
  have hsign : c ≠ '=' := by rcases hc with rfl | rfl <;> decide
  simp [toList_printPair, hname, htext, hsign]

theorem toList_intercalate_printPair (pairs : List (Attribute × String)) :
    (",".intercalate (pairs.map printPair)).toList
      = [','].intercalate (pairs.map fun pair => (printPair pair).toList) := by
  rw [String.toList_intercalate, List.map_map]
  rfl

theorem holdsPieces_printPair (hne : pairs ≠ []) (h : ∀ pair ∈ pairs, IsListText pair.2) :
    HoldsPieces ([','].intercalate (pairs.map fun pair => (printPair pair).toList))
      (pairs.map fun pair => (printPair pair).toList) := by
  refine ⟨pairs.map fun pair => (printPair pair).toList,
    pairs.map fun pair => (printPair pair).toList, ⟨?_, ?_, rfl⟩, ?_, ?_⟩
  · simpa using hne
  · intro piece hp
    obtain ⟨pair, hpair, rfl⟩ := List.mem_map.1 hp
    exact not_mem_printPair (.inl rfl) (h pair hpair)
  · rw [List.forall₂_same]
    intro piece hp
    obtain ⟨pair, hpair, rfl⟩ := List.mem_map.1 hp
    exact trims_printPair (h pair hpair)
  · symm
    apply List.filter_eq_self.2
    intro piece hp
    obtain ⟨pair, -, rfl⟩ := List.mem_map.1 hp
    simpa using printPair_ne_nil pair

theorem writtenList_printList (h : ∀ pair ∈ pairs, IsListText pair.2) :
    WrittenList (printList pairs).toList pairs := by
  cases pairs with
  | nil => exact .absent
  | cons pair pairs =>
    have hclosed : ']' ∉ [','].intercalate
        ((pair :: pairs).map fun pair => (printPair pair).toList) := by
      apply not_mem_intercalate (by decide)
      intro piece hp
      obtain ⟨other, ho, rfl⟩ := List.mem_map.1 hp
      exact not_mem_printPair (.inr rfl) (h other ho)
    have hgives : List.Forall₂ GivesPair ((pair :: pairs).map fun pair => (printPair pair).toList)
        (pair :: pairs) := by
      rw [List.forall₂_map_left_iff, List.forall₂_same]
      exact fun other ho => givesPair_printPair (h other ho)
    have hlist : (printList (pair :: pairs)).toList = '[' ::
        ([','].intercalate ((pair :: pairs).map fun pair => (printPair pair).toList) ++ [']']) := by
      rw [printList, String.toList_append, String.toList_append, toList_intercalate_printPair]
      · rfl
      · exact nofun
    rw [hlist]
    exact .bracketed hclosed (holdsPieces_printPair (List.cons_ne_nil _ _) h) hgives

theorem writtenValue_printValue (value : String) :
    WrittenValue (printValue value).toList value := by
  by_cases h : value = ""
  · rw [printValue, if_pos h, h]
    exact .absent
  · have hvalue : (printValue value).toList = '=' :: value.toList := by
      rw [printValue, if_neg h, String.toList_append]
      rfl
    have hgiven := WrittenValue.given value.toList
    rw [String.ofList_toList] at hgiven
    rw [hvalue]
    exact hgiven

/-! ### Whole arguments -/

theorem written_print (h : argument.Printable) : Written argument.print.toList argument := by
  refine ⟨argument.tag.text.toList, (printList argument.attributes).toList,
    (printValue argument.value).toList, ?_, ?_, trims_tag argument.tag, writtenList_printList h,
    writtenValue_printValue argument.value⟩
  · rw [print, String.toList_append, String.toList_append]
  · have hfree : '[' ∉ argument.tag.text.toList ∧ '=' ∉ argument.tag.text.toList := by
      cases argument.tag <;> decide
    intro c hc
    exact ⟨fun e => hfree.1 (e ▸ hc), fun e => hfree.2 (e ▸ hc)⟩

theorem parse_print (h : argument.Printable) : parse argument.print = .ok argument :=
  parse_of_written (written_print h)

end DetectionRule.Argument
