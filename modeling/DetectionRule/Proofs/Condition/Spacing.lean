import DetectionRule.Proofs.Condition.Printing

/-!
# Printed arguments and blanks in them

What can be printed and read again is just what reading gives: an argument that was read is
`Printable`, so that printing it and reading it again gives it back. Blanks around the tag, around
the pieces of the list, around the names and the texts in them, and pieces of blanks only, make no
difference to what is read (`Spaced`). Main statement: `parse_print_spaced`.
-/

namespace DetectionRule

/-- The same error, told of another text. -/
def ArgumentError.quoting (input : String) : ArgumentError → ArgumentError
  | unknownTag text => unknownTag text
  | malformed _ fault => malformed input fault

namespace Argument
open Text

/-- Blanks added around a piece of a list, or around the name and the text in it. -/
inductive SpacedPiece : List Char → List Char → Prop
  | around {piece spaced : List Char} (h : Padded piece spaced) : SpacedPiece piece spaced
  | inside {front name text value : List Char} (bare : '=' ∉ front) (hname : Padded front name)
      (htext : Padded text value) : SpacedPiece (front ++ '=' :: text) (name ++ '=' :: value)

/-- Blanks added to the pieces, and pieces of blanks only between them. -/
inductive SpacedPieces : List (List Char) → List (List Char) → Prop
  | nil : SpacedPieces [] []
  | piece {piece spaced : List Char} {pieces more : List (List Char)}
      (h : SpacedPiece piece spaced) (rest : SpacedPieces pieces more) :
      SpacedPieces (piece :: pieces) (spaced :: more)
  | blank {spaced : List Char} {pieces more : List (List Char)}
      (h : ∀ c ∈ spaced, isBlank c = true) (rest : SpacedPieces pieces more) :
      SpacedPieces pieces (spaced :: more)

inductive SpacedRest : List Char → List Char → Prop
  | same (rest : List Char) : SpacedRest rest rest
  | list {list rest : List Char} {pieces spaced : List (List Char)} (closed : ']' ∉ list)
      (cut : IsCut ',' list pieces) (h : SpacedPieces pieces spaced) :
      SpacedRest ('[' :: (list ++ ']' :: rest))
        ('[' :: ([','].intercalate spaced ++ ']' :: rest))

/-- Blanks added to an argument around its tag and in its list; the value is as it was. -/
inductive Spaced (cs : List Char) : List Char → Prop
  | intro {tag front rest more : List Char} (cut : Divides endsTag cs tag rest)
      (htag : Padded tag front) (hrest : SpacedRest rest more) : Spaced cs (front ++ more)

variable {piece spaced front name text value list rest more : List Char}
  {pieces kept : List (List Char)} {pair : Attribute × String}
  {pairs : List (Attribute × String)} {argument : Argument} {s t : String}

/-! ### What is read can be printed -/

theorem exists_piece_of_mem (h : List.Forall₂ GivesPair kept pairs) (hp : pair ∈ pairs) :
    ∃ piece ∈ kept, GivesPair piece pair := by
  induction h with
  | nil => cases hp
  | cons hfirst _ ih =>
    rcases List.mem_cons.1 hp with rfl | hp
    · exact ⟨_, List.mem_cons_self, hfirst⟩
    · obtain ⟨piece, hpiece, hgives⟩ := ih hp
      exact ⟨piece, List.mem_cons_of_mem _ hpiece, hgives⟩

/-- The text of a pair stands in a piece, and a piece holds no comma and none but the characters of
its list. -/
theorem mem_of_mem_listPieces {c : Char} (h : piece ∈ listPieces list) (hc : c ∈ piece) :
    c ∈ list ∧ c ≠ ',' := by
  obtain ⟨cut, hcut, rfl⟩ := List.mem_map.1 (List.mem_of_mem_filter h)
  have hm := mem_of_mem_trimChars hc
  exact ⟨mem_of_mem_pieces hcut hm, fun e => not_mem_of_mem_pieces hcut (e ▸ hm)⟩

theorem isListText_of_writtenList (h : WrittenList list pairs) (hp : pair ∈ pairs) :
    IsListText pair.2 := by
  cases h with
  | absent => cases hp
  | @bracketed list kept pairs closed holds gives =>
    obtain ⟨piece, hpiece, front, text, rfl, -, -, trim⟩ := exists_piece_of_mem gives hp
    rw [← listPieces_eq_iff.2 holds] at hpiece
    have htext : ∀ c ∈ pair.2.toList, c ∈ list ∧ c ≠ ',' := by
      intro c hc
      have hm : c ∈ text := (mem_of_mem_trimChars (trimChars_of_trims trim ▸ hc))
      exact mem_of_mem_listPieces hpiece (by simp [hm])
    refine ⟨?_, fun hc => (htext _ hc).2 rfl, fun hc => closed (htext _ hc).1⟩
    have hself : Trims pair.2.toList pair.2.toList :=
      ⟨⟨[], [], by simp, by simp, by simp⟩, trim.first, trim.last⟩
    rw [Text.trim, trimChars_of_trims hself, String.ofList_toList]

theorem printable_of_parse (h : parse s = .ok argument) : argument.Printable := by
  obtain ⟨-, list, -, -, -, -, hlist, -⟩ := written_of_parse h
  exact fun pair hp => isListText_of_writtenList hlist hp

theorem readPair_inside (bare : '=' ∉ front) (hname : Padded front name)
    (htext : Padded text value) :
    readPair (name ++ '=' :: value) = readPair (front ++ '=' :: text) := by
  have hbare : '=' ∉ name := fun hm => bare ((mem_iff_of_padded hname (by decide)).1 hm)
  rw [readPair_of_trims bare (trims_trimChars front),
    readPair_of_trims hbare (trims_of_padded hname (trims_trimChars front)),
    trimChars_of_padded htext]

/-- Blanks around a pair are blanks around its name and its text. -/
theorem readPair_of_padded (hm : '=' ∈ piece) (h : Padded piece spaced) :
    readPair spaced = readPair piece := by
  obtain ⟨front, text, rfl, bare⟩ := List.eq_append_cons_of_mem hm
  obtain ⟨left, right, rfl, hleft, hright⟩ := h
  have hname : Padded front (left ++ front) := ⟨left, [], by simp, hleft, by simp⟩
  have htext : Padded text (text ++ right) := ⟨[], right, by simp, by simp, hright⟩
  have hspaced : left ++ (front ++ '=' :: text) ++ right
      = (left ++ front) ++ '=' :: (text ++ right) := by simp
  rw [hspaced, readPair_inside bare hname htext]

theorem equals_mem_trimChars_iff : '=' ∈ trimChars piece ↔ '=' ∈ piece :=
  (mem_iff_of_padded (padded_trimChars piece) (by decide)).symm

theorem readPair_trimChars (hm : '=' ∈ piece) : readPair (trimChars piece) = readPair piece :=
  (readPair_of_padded (equals_mem_trimChars_iff.2 hm) (padded_trimChars piece)).symm

/-- A spaced piece is left out just where the piece is, and gives the same pair or fault. -/
theorem trimChars_of_spacedPiece (h : SpacedPiece piece spaced) :
    (trimChars spaced).isEmpty = (trimChars piece).isEmpty ∧
      readPair (trimChars spaced) = readPair (trimChars piece) := by
  cases h with
  | around h =>
    rw [trimChars_of_padded h]
    exact ⟨rfl, rfl⟩
  | @inside front name text value bare hname htext =>
    have hpiece : '=' ∈ front ++ '=' :: text := by simp
    have hspaced : '=' ∈ name ++ '=' :: value := by simp
    constructor
    · have hne := List.ne_nil_of_mem (equals_mem_trimChars_iff.2 hpiece)
      have hne' := List.ne_nil_of_mem (equals_mem_trimChars_iff.2 hspaced)
      rw [List.isEmpty_eq_false_iff.2 hne, List.isEmpty_eq_false_iff.2 hne']
    · rw [readPair_trimChars hpiece, readPair_trimChars hspaced, readPair_inside bare hname htext]

theorem readPieces_of_spacedPieces {spaced : List (List Char)} (h : SpacedPieces pieces spaced) :
    readPieces ((spaced.map trimChars).filter fun piece => !piece.isEmpty)
      = readPieces ((pieces.map trimChars).filter fun piece => !piece.isEmpty) := by
  induction h with
  | nil => rfl
  | @piece piece spaced pieces more h rest ih =>
    obtain ⟨hempty, hpair⟩ := trimChars_of_spacedPiece h
    rw [List.map_cons, List.map_cons, List.filter_cons, List.filter_cons, hempty]
    split
    · rw [readPieces, readPieces, hpair, ih]
    · exact ih
  | @blank spaced pieces more h rest ih =>
    have hnil : trimChars spaced = [] := trimChars_eq_nil_iff.2 (List.all_eq_true.2 h)
    rw [List.map_cons, hnil]
    exact ih

theorem not_mem_of_spacedPiece {c : Char} (hc : isBlank c = false) (h : SpacedPiece piece spaced)
    (hm : c ∉ piece) : c ∉ spaced := by
  cases h with
  | around h => exact fun hs => hm ((mem_iff_of_padded h hc).1 hs)
  | inside bare hname htext =>
    simpa [mem_iff_of_padded hname hc, mem_iff_of_padded htext hc] using hm

theorem not_mem_of_spacedPieces {c : Char} {spaced : List (List Char)} (hc : isBlank c = false)
    (h : SpacedPieces pieces spaced) (hm : ∀ piece ∈ pieces, c ∉ piece) :
    ∀ piece ∈ spaced, c ∉ piece := by
  induction h with
  | nil => exact hm
  | piece h rest ih =>
    rw [List.forall_mem_cons] at hm ⊢
    exact ⟨not_mem_of_spacedPiece hc h hm.1, ih hm.2⟩
  | blank h rest ih =>
    rw [List.forall_mem_cons]
    exact ⟨fun hs => by simp [h c hs] at hc, ih hm⟩

theorem readRest_of_spacedRest (h : SpacedRest rest more) : readRest more = readRest rest := by
  cases h with
  | same => rfl
  | @list list rest pieces spaced closed cut h =>
    have hpieces := pieces_eq_iff.2 cut
    have hne : spaced ≠ [] := by
      cases h with
      | nil => exact absurd rfl cut.exists_piece
      | piece => exact List.cons_ne_nil _ _
      | blank => exact List.cons_ne_nil _ _
    have hcommas := not_mem_of_spacedPieces (by decide) h cut.free
    have hbrackets := not_mem_of_spacedPieces (by decide) h fun piece hp hm =>
      closed (mem_of_mem_pieces (hpieces ▸ hp) hm)
    have hclosed : ']' ∉ [','].intercalate spaced := not_mem_intercalate (by decide) hbrackets
    have hread : readPieces (listPieces ([','].intercalate spaced))
        = readPieces (listPieces list) := by
      rw [listPieces, listPieces, pieces_intercalate hne hcommas, hpieces]
      exact readPieces_of_spacedPieces h
    rw [readRest_closed hclosed (listPieces_eq_iff.1 rfl),
      readRest_closed closed (listPieces_eq_iff.1 rfl), hread]

/-! ### Whole arguments -/

theorem not_endsTag_of_isBlank {c : Char} (h : isBlank c = true) : endsTag c = false := by
  by_contra hc
  simp only [endsTag, Bool.not_eq_false, Bool.or_eq_true, decide_eq_true_eq] at hc
  rcases hc with rfl | rfl <;> revert h <;> decide

theorem divides_of_spaced {cs tag : List Char} (cut : Divides endsTag cs tag rest)
    (htag : Padded tag front) (hrest : SpacedRest rest more) :
    Divides endsTag (front ++ more) front more where
  whole := rfl
  free := by
    obtain ⟨left, right, rfl, hleft, hright⟩ := htag
    intro c hc
    rw [List.mem_append, List.mem_append] at hc
    rcases hc with (hc | hc) | hc
    · exact not_endsTag_of_isBlank (hleft c hc)
    · exact cut.free c hc
    · exact not_endsTag_of_isBlank (hright c hc)
  stop := by
    cases hrest with
    | same => exact cut.stop
    | list =>
      intro c hc
      cases hc
      rfl

theorem parse_of_spaced (h : Spaced s.toList t.toList) :
    parse t = (parse s).mapError (ArgumentError.quoting t) := by
  generalize hts : t.toList = ts at h
  obtain ⟨cut, htag, hrest⟩ := h
  have hcut := divides_of_spaced cut htag hrest
  rw [← hts] at hcut
  have trim := trims_trimChars (before endsTag s.toList)
  rw [before_of_divides cut] at trim
  rw [parse_of_trims cut trim, parse_of_trims hcut (trims_of_padded htag trim),
    readRest_of_spacedRest hrest]
  split
  · rfl
  · cases Tag.ofText? _ with
    | none => rfl
    | some known =>
      cases readRest _ <;> rfl

theorem parse_print_spaced :
    (∀ argument : Argument, parse argument.print = .ok argument ↔ argument.Printable) ∧
      (∀ s argument, parse s = .ok argument →
        argument.Printable ∧ parse argument.print = parse s) ∧
      ∀ s t : String, Spaced s.toList t.toList →
        parse t = (parse s).mapError (ArgumentError.quoting t) := by
  refine ⟨fun argument => ⟨printable_of_parse, parse_print⟩, ?_, fun s t => parse_of_spaced⟩
  intro s argument h
  have hprintable := printable_of_parse h
  exact ⟨hprintable, (parse_print hprintable).trans h.symm⟩

/-- Signs of the grammar in a text of the list and in the value. -/
def signedArgument : Argument :=
  ⟨.regex, [(.type, "pcre2"), (.negate, "a=[b")], "= c ]"⟩

theorem parse_print_spaced_signedArgument :
    signedArgument.Printable ∧
      signedArgument.print = "regex[type=pcre2,negate=a=[b]== c ]" ∧
      parse "regex[type=pcre2,negate=a=[b]== c ]" = .ok signedArgument ∧
      Spaced "regex[type=pcre2,negate=a=[b]== c ]".toList
        "\tregex [ type=pcre2 , ,negate = a=[b\n,]== c ]".toList ∧
      parse "\tregex [ type=pcre2 , ,negate = a=[b\n,]== c ]" = .ok signedArgument := by
  have hprintable : signedArgument.Printable := by
    show ∀ pair ∈ signedArgument.attributes, IsListText pair.2
    decide
  have hprint : signedArgument.print = "regex[type=pcre2,negate=a=[b]== c ]" := by decide
  have htag : Padded "regex".toList "\tregex ".toList :=
    padded_of_all ['\t'] [' '] (by decide) (by decide) (by decide)
  have hpair : Padded "type=pcre2".toList " type=pcre2 ".toList :=
    padded_of_all [' '] [' '] (by decide) (by decide) (by decide)
  have hname : Padded "negate".toList "negate ".toList :=
    padded_of_all [] [' '] (by decide) (by decide) (by decide)
  have htext : Padded "a=[b".toList " a=[b\n".toList :=
    padded_of_all [' '] ['\n'] (by decide) (by decide) (by decide)
  have hpieces : SpacedPieces ["type=pcre2".toList, "negate".toList ++ '=' :: "a=[b".toList]
      [" type=pcre2 ".toList, " ".toList, "negate ".toList ++ '=' :: " a=[b\n".toList, []] :=
    .piece (.around hpair) <| .blank (List.all_eq_true.1 (by decide)) <|
      .piece (.inside (by decide) hname htext) <| .blank (List.all_eq_true.1 (by decide)) .nil
  have hrest : SpacedRest ('[' :: ("type=pcre2,negate=a=[b".toList ++ ']' :: "== c ]".toList))
      ('[' :: (" type=pcre2 , ,negate = a=[b\n,".toList ++ ']' :: "== c ]".toList)) :=
    .list (by decide) ⟨by decide, by decide, by decide⟩ hpieces
  have hspaced : Spaced "regex[type=pcre2,negate=a=[b]== c ]".toList
      "\tregex [ type=pcre2 , ,negate = a=[b\n,]== c ]".toList :=
    .intro (before_eq_iff.1 ⟨by decide, by decide⟩) htag hrest
  obtain ⟨hround, -, hspacing⟩ := parse_print_spaced
  have hparse : parse "regex[type=pcre2,negate=a=[b]== c ]" = .ok signedArgument := by
    rw [← hprint]
    exact (hround signedArgument).2 hprintable
  refine ⟨hprintable, hprint, hparse, hspaced, ?_⟩
  rw [hspacing _ _ hspaced, hparse]
  rfl

end Argument

end DetectionRule
