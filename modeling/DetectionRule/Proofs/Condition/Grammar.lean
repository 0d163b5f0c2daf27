import DetectionRule.Condition.Argument
import DetectionRule.Proofs.Text.Cutting

/-!
# The grammar of arguments

An argument is written as a tag, a list and a value: `Written`. The list is absent or stands in
brackets, the value is absent or follows an equals sign. What can be wrong with a text is `Faulty`;
several things can be at once, and their ranks say which one is told. Main statement: reading
accepts exactly the written arguments, and refuses any other text for its fault of lowest rank
(`parse_exact`).
-/

namespace DetectionRule

def SyntaxFault.rank : SyntaxFault → Nat
  | missingTag => 0
  | unterminatedList => 2
  | noValue _ | unknownAttribute _ => 3
  | trailingText _ => 4

def ArgumentError.rank : ArgumentError → Nat
  | unknownTag _ => 1
  | malformed _ fault => fault.rank

namespace Argument
open Text

/-! ### What is written -/

/-- A piece of a list that gives an attribute its text, split at the first equals sign. -/
def GivesPair (piece : List Char) (pair : Attribute × String) : Prop :=
  ∃ name text, piece = name ++ '=' :: text ∧ '=' ∉ name ∧
    Trims name pair.1.text.toList ∧ Trims text pair.2.toList

/-- The pieces between the commas, trimmed, those left out of which nothing is left. -/
def HoldsPieces (list : List Char) (kept : List (List Char)) : Prop :=
  ∃ cuts trimmed, IsCut ',' list cuts ∧ List.Forall₂ Trims cuts trimmed ∧
    kept = trimmed.filter fun piece => !piece.isEmpty

inductive WrittenList : List Char → List (Attribute × String) → Prop
  | absent : WrittenList [] []
  | bracketed {list : List Char} {kept : List (List Char)} {pairs : List (Attribute × String)}
      (closed : ']' ∉ list) (holds : HoldsPieces list kept)
      (gives : List.Forall₂ GivesPair kept pairs) :
      WrittenList ('[' :: (list ++ [']'])) pairs

inductive WrittenValue : List Char → String → Prop
  | absent : WrittenValue [] ""
  | given (text : List Char) : WrittenValue ('=' :: text) (String.ofList text)

def Written (cs : List Char) (argument : Argument) : Prop :=
  ∃ tag list value, cs = tag ++ list ++ value ∧ (∀ c ∈ tag, c ≠ '[' ∧ c ≠ '=') ∧
    Trims tag argument.tag.text.toList ∧ WrittenList list argument.attributes ∧
    WrittenValue value argument.value

inductive BadPiece : List Char → SyntaxFault → Prop
  | noValue {piece : List Char} (bare : '=' ∉ piece) :
      BadPiece piece (.noValue (String.ofList piece))
  | unknownAttribute {front name text : List Char} (bare : '=' ∉ front) (trim : Trims front name)
      (unknown : ∀ attr : Attribute, attr.text.toList ≠ name) :
      BadPiece (front ++ '=' :: text) (.unknownAttribute (String.ofList name))

/-- A fault behind the tag. Of the pieces of a list, the leftmost bad one is at fault. -/
inductive FaultyRest : List Char → SyntaxFault → Prop
  | unterminatedList {cs : List Char} (unclosed : ']' ∉ cs) :
      FaultyRest ('[' :: cs) .unterminatedList
  | badPiece {list rest bad : List Char} {good more : List (List Char)} {fault : SyntaxFault}
      (closed : ']' ∉ list) (holds : HoldsPieces list (good ++ bad :: more))
      (gives : ∀ piece ∈ good, ∃ pair, GivesPair piece pair) (isBad : BadPiece bad fault) :
      FaultyRest ('[' :: (list ++ ']' :: rest)) fault
  | trailingText {list rest : List Char} {c : Char} (closed : ']' ∉ list) (other : c ≠ '=') :
      FaultyRest ('[' :: (list ++ ']' :: c :: rest)) (.trailingText (String.ofList (c :: rest)))

inductive Faulty (s : String) : ArgumentError → Prop
  | missingTag {tag rest : List Char} (cut : Divides endsTag s.toList tag rest)
      (blank : ∀ c ∈ tag, isBlank c = true) : Faulty s (.malformed s .missingTag)
  | unknownTag {tag rest name : List Char} (cut : Divides endsTag s.toList tag rest)
      (trim : Trims tag name) (unknown : ∀ known : Tag, known.text.toList ≠ name) :
      Faulty s (.unknownTag (String.ofList name))
  | rest {tag rest : List Char} {fault : SyntaxFault} (cut : Divides endsTag s.toList tag rest)
      (isFaulty : FaultyRest rest fault) : Faulty s (.malformed s fault)

/-! ### Names -/

theorem ne_ofList_iff {s : String} {cs : List Char} : s ≠ String.ofList cs ↔ s.toList ≠ cs := by
  rw [ne_eq, ne_eq, ← String.toList_inj, String.toList_ofList]

theorem ofText?_attribute_eq_none_iff {name : List Char} :
    Attribute.ofText? (String.ofList name) = none ↔
      ∀ attr : Attribute, attr.text.toList ≠ name := by
  rw [Attribute.ofText?_eq_none_iff]
  exact forall_congr' fun _ => ne_ofList_iff

theorem ofText?_tag_eq_none_iff {name : List Char} :
    Tag.ofText? (String.ofList name) = none ↔ ∀ known : Tag, known.text.toList ≠ name := by
  rw [Tag.ofText?_eq_none_iff]
  exact forall_congr' fun _ => ne_ofList_iff

variable {piece list cs front name text rest : List Char} {pieces kept : List (List Char)}
  {pair : Attribute × String} {pairs : List (Attribute × String)} {fault : SyntaxFault}

theorem readPair_of_not_mem (h : '=' ∉ piece) :
    readPair piece = .error (.noValue (String.ofList piece)) := by
  have hnone : fromFirst (· = '=') piece = [] := fromFirst_eq_nil_iff_not_mem.2 h
  rw [readPair, hnone]

theorem readPair_of_trims (h : '=' ∉ front) (trim : Trims front name) :
    readPair (front ++ '=' :: text) =
      match Attribute.ofText? (String.ofList name) with
      | none => .error (.unknownAttribute (String.ofList name))
      | some attr => .ok (attr, String.ofList (trimChars text)) := by
  have hcut := divides_at h text
  rewrite [readPair, fromFirst_of_divides hcut, before_of_divides hcut, trimChars_of_trims trim]
  rfl

theorem readPair_eq_ok_iff : readPair piece = .ok pair ↔ GivesPair piece pair := by
  constructor
  · intro h
    by_cases hm : '=' ∈ piece
    · obtain ⟨front, text, rfl, hfree⟩ := List.eq_append_cons_of_mem hm
      rw [readPair_of_trims hfree (trims_trimChars front)] at h
      cases hattr : Attribute.ofText? (String.ofList (trimChars front)) with
      | none =>
        rw [hattr] at h
        cases h
      | some attr =>
        rw [hattr] at h
        cases h
        have hname : attr.text.toList = trimChars front := by
          rw [← Attribute.ofText?_eq_some_iff.1 hattr, String.toList_ofList]
        refine ⟨front, text, rfl, hfree, ?_, ?_⟩
        · rw [hname]
          exact trims_trimChars front
        · rw [String.toList_ofList]
          exact trims_trimChars text
    · rw [readPair_of_not_mem hm] at h
      cases h
  · rintro ⟨front, text, rfl, hfree, hname, htext⟩
    rw [readPair_of_trims hfree hname, String.ofList_toList, Attribute.ofText?_text,
      trimChars_of_trims htext, String.ofList_toList]

theorem readPair_eq_error_iff : readPair piece = .error fault ↔ BadPiece piece fault := by
  constructor
  · intro h
    by_cases hm : '=' ∈ piece
    · obtain ⟨front, text, rfl, hfree⟩ := List.eq_append_cons_of_mem hm
      rw [readPair_of_trims hfree (trims_trimChars front)] at h
      cases hattr : Attribute.ofText? (String.ofList (trimChars front)) with
      | none =>
        rw [hattr] at h
        cases h
        exact .unknownAttribute hfree (trims_trimChars front)
          (ofText?_attribute_eq_none_iff.1 hattr)
      | some attr =>
        rw [hattr] at h
        cases h
    · rw [readPair_of_not_mem hm] at h
      cases h
      exact .noValue hm
  · intro h
    cases h with
    | noValue bare => exact readPair_of_not_mem bare
    | @unknownAttribute front name text bare trim unknown =>
      rw [readPair_of_trims bare trim, ofText?_attribute_eq_none_iff.2 unknown]

theorem rank_of_badPiece (h : BadPiece piece fault) : fault.rank = 3 := by
  cases h <;> rfl

/-! ### Lists -/

theorem listPieces_eq_iff : listPieces list = kept ↔ HoldsPieces list kept := by
  constructor
  · rintro rfl
    refine ⟨Text.pieces ',' list, (Text.pieces ',' list).map trimChars, pieces_eq_iff.1 rfl, ?_,
      rfl⟩
    rw [List.forall₂_map_right_iff, List.forall₂_same]
    exact fun piece _ => trims_trimChars piece
  · rintro ⟨cuts, trimmed, hcut, htrim, rfl⟩
    have hmap : cuts.map trimChars = trimmed := by
      rw [← List.forall₂_eq_eq_eq, List.forall₂_map_left_iff]
      exact htrim.imp fun _ _ => trimChars_of_trims
    rw [listPieces, pieces_eq_iff.2 hcut, hmap]

theorem readPieces_eq_ok_iff :
    readPieces pieces = .ok pairs ↔ List.Forall₂ GivesPair pieces pairs := by
  induction pieces generalizing pairs with
  | nil =>
    rw [readPieces, List.forall₂_nil_left_iff, Except.ok.injEq, eq_comm]
  | cons piece pieces ih =>
    rw [readPieces, List.forall₂_cons_left_iff]
    constructor
    · intro h
      cases hp : readPair piece with
      | error fault =>
        rw [hp] at h
        cases h
      | ok pair =>
        cases hr : readPieces pieces with
        | error fault =>
          rw [hp, hr] at h
          cases h
        | ok others =>
          rw [hp, hr] at h
          cases h
          exact ⟨pair, others, readPair_eq_ok_iff.1 hp, ih.1 hr, rfl⟩
    · rintro ⟨pair, others, hp, hr, rfl⟩
      rw [readPair_eq_ok_iff.2 hp, ih.2 hr]
      rfl

theorem readPieces_eq_error_iff :
    readPieces pieces = .error fault ↔ ∃ good bad more, pieces = good ++ bad :: more ∧
      (∀ piece ∈ good, ∃ pair, GivesPair piece pair) ∧ BadPiece bad fault := by
  induction pieces with
  | nil => simp [readPieces]
  | cons piece pieces ih =>
    rw [readPieces]
    constructor
    · intro h
      cases hp : readPair piece with
      | error first =>
        rw [hp] at h
        cases h
        exact ⟨[], piece, pieces, rfl, by simp, readPair_eq_error_iff.1 hp⟩
      | ok pair =>
        cases hr : readPieces pieces with
        | ok others =>
          rw [hp, hr] at h
          cases h
        | error later =>
          rw [hp, hr] at h
          cases h
          obtain ⟨good, bad, more, rfl, hgood, hbad⟩ := ih.1 hr
          refine ⟨piece :: good, bad, more, rfl, ?_, hbad⟩
          intro q hq
          rcases List.mem_cons.1 hq with rfl | hq
          · exact ⟨pair, readPair_eq_ok_iff.1 hp⟩
          · exact hgood q hq
    · rintro ⟨good, bad, more, hsplit, hgood, hbad⟩
      cases good with
      | nil =>
        obtain ⟨rfl, rfl⟩ := List.cons.inj hsplit
        rw [readPair_eq_error_iff.2 hbad]
      | cons first good =>
        rw [List.cons_append, List.cons.injEq] at hsplit
        obtain ⟨rfl, rfl⟩ := hsplit
        obtain ⟨pair, hp⟩ := hgood piece List.mem_cons_self
        have hr : readPieces (good ++ bad :: more) = .error fault :=
          ih.2 ⟨good, bad, more, rfl, fun q hq => hgood q (List.mem_cons_of_mem _ hq), hbad⟩
        rw [readPair_eq_ok_iff.2 hp, hr]
        rfl

theorem rest_shape (cs : List Char) :
    (∃ inside, cs = '[' :: inside ∧ ']' ∉ inside) ∨
      (∃ list rest, cs = '[' :: (list ++ ']' :: rest) ∧ ']' ∉ list) ∨ ∀ c ∈ cs.head?, c ≠ '[' := by
  cases cs with
  | nil => exact .inr (.inr (by simp))
  | cons c cs =>
    by_cases hc : c = '['
    · subst hc
      by_cases hm : ']' ∈ cs
      · obtain ⟨list, rest, rfl, closed⟩ := List.eq_append_cons_of_mem hm
        exact .inr (.inl ⟨list, rest, rfl, closed⟩)
      · exact .inl ⟨cs, rfl, hm⟩
    · refine .inr (.inr ?_)
      rintro d hd rfl
      cases hd
      exact hc rfl

theorem readRest_unclosed (h : ']' ∉ cs) : readRest ('[' :: cs) = .error .unterminatedList := by
  have hnone : fromFirst (· = ']') cs = [] := fromFirst_eq_nil_iff_not_mem.2 h
  rw [readRest, readList, hnone]

theorem readRest_closed (closed : ']' ∉ list) (holds : HoldsPieces list kept) :
    readRest ('[' :: (list ++ ']' :: rest)) =
      match readPieces kept with
      | .error fault => .error fault
      | .ok pairs => (readValue rest).map (pairs, ·) := by
  have hcut := divides_at closed rest
  rw [readRest, readList, fromFirst_of_divides hcut, before_of_divides hcut,
    listPieces_eq_iff.2 holds]
  cases readPieces kept <;> rfl

theorem readRest_of_no_list (h : ∀ c ∈ cs.head?, c ≠ '[') :
    readRest cs = (readValue cs).map ([], ·) := by
  have hlist : readList cs = .ok ([], cs) := by
    unfold readList
    split
    · exact absurd rfl (h '[' rfl)
    · rfl
  rw [readRest, hlist]

theorem readValue_eq_ok_iff {value : String} :
    readValue cs = .ok value ↔ WrittenValue cs value := by
  constructor
  · intro h
    unfold readValue at h
    split at h
    · cases h
      exact .absent
    · cases h
      exact .given _
    · cases h
  · intro h
    cases h <;> rfl

theorem readValue_of_other {c : Char} (h : c ≠ '=') :
    readValue (c :: cs) = .error (.trailingText (String.ofList (c :: cs))) := by
  unfold readValue
  split
  · next hnil => cases hnil
  · next heq =>
    cases heq
    exact absurd rfl h
  · next heq => rfl

theorem readRest_eq_ok_iff {value : String} :
    readRest cs = .ok (pairs, value) ↔
      ∃ list text, cs = list ++ text ∧ WrittenList list pairs ∧ WrittenValue text value := by
  constructor
  · intro h
    rcases rest_shape cs with ⟨inside, rfl, unclosed⟩ | ⟨list, rest, rfl, closed⟩ | hno
    · rw [readRest_unclosed unclosed] at h
      cases h
    · have holds : HoldsPieces list (listPieces list) := listPieces_eq_iff.1 rfl
      rw [readRest_closed closed holds] at h
      cases hp : readPieces (listPieces list) with
      | error fault =>
        rw [hp] at h
        cases h
      | ok found =>
        cases hv : readValue rest with
        | error fault =>
          rw [hp, hv] at h
          cases h
        | ok text =>
          rw [hp, hv] at h
          cases h
          exact ⟨'[' :: (list ++ [']']), rest, by simp,
            .bracketed closed holds (readPieces_eq_ok_iff.1 hp), readValue_eq_ok_iff.1 hv⟩
    · rw [readRest_of_no_list hno] at h
      cases hv : readValue cs with
      | error fault =>
        rw [hv] at h
        cases h
      | ok text =>
        rw [hv] at h
        cases h
        exact ⟨[], cs, rfl, .absent, readValue_eq_ok_iff.1 hv⟩
  · rintro ⟨written, text, rfl, hlist, hvalue⟩
    cases hlist with
    | absent =>
      have hno : ∀ c ∈ ([] ++ text).head?, c ≠ '[' := by
        cases hvalue <;> simp
      rw [readRest_of_no_list hno, List.nil_append, readValue_eq_ok_iff.2 hvalue]
      rfl
    | @bracketed list kept pairs closed holds gives =>
      rw [List.cons_append, List.append_assoc, List.singleton_append, readRest_closed closed holds,
        readPieces_eq_ok_iff.2 gives, readValue_eq_ok_iff.2 hvalue]
      rfl

theorem faultyRest_of_readRest (stop : ∀ c ∈ cs.head?, endsTag c = true)
    (h : readRest cs = .error fault) : FaultyRest cs fault := by
  rcases rest_shape cs with ⟨inside, rfl, unclosed⟩ | ⟨list, rest, rfl, closed⟩ | hno
  · rw [readRest_unclosed unclosed] at h
    cases h
    exact .unterminatedList unclosed
  · have holds : HoldsPieces list (listPieces list) := listPieces_eq_iff.1 rfl
    rw [readRest_closed closed holds] at h
    cases hp : readPieces (listPieces list) with
    | error first =>
      rw [hp] at h
      cases h
      obtain ⟨good, bad, more, hsplit, gives, isBad⟩ := readPieces_eq_error_iff.1 hp
      exact .badPiece closed (hsplit ▸ holds) gives isBad
    | ok found =>
      rw [hp] at h
      cases rest with
      | nil => cases h
      | cons c rest =>
        by_cases hc : c = '='
        · subst hc
          cases h
        · rw [readValue_of_other hc] at h
          cases h
          exact .trailingText closed hc
  · -- without a list the rest is empty or a value, and neither is refused
    cases cs with
    | nil => cases h
    | cons c cs =>
      have hc : c = '=' := by
        have hends := stop c rfl
        simp only [endsTag, Bool.or_eq_true, decide_eq_true_eq] at hends
        exact hends.resolve_left (hno c rfl)
      subst hc
      cases h

/-- A faulty rest is refused, for that fault or one that comes before it. -/
theorem readRest_of_faultyRest (h : FaultyRest cs fault) :
    ∃ first, readRest cs = .error first ∧ (first.rank < fault.rank ∨ first = fault) := by
  cases h with
  | unterminatedList unclosed => exact ⟨_, readRest_unclosed unclosed, .inr rfl⟩
  | @badPiece list rest bad good more fault closed holds gives isBad =>
    refine ⟨fault, ?_, .inr rfl⟩
    rw [readRest_closed closed holds,
      readPieces_eq_error_iff.2 ⟨good, bad, more, rfl, gives, isBad⟩]
  | @trailingText list rest c closed other =>
    have holds : HoldsPieces list (listPieces list) := listPieces_eq_iff.1 rfl
    rw [readRest_closed closed holds]
    cases hp : readPieces (listPieces list) with
    | error first =>
      obtain ⟨-, bad, -, -, -, isBad⟩ := readPieces_eq_error_iff.1 hp
      refine ⟨first, rfl, .inl ?_⟩
      rw [rank_of_badPiece isBad]
      exact Nat.lt_succ_self 3
    | ok found =>
      refine ⟨_, ?_, .inr rfl⟩
      rw [readValue_of_other other]
      rfl

/-! ### Whole arguments -/

theorem parse_of_trims {s : String} {tag name : List Char} (cut : Divides endsTag s.toList tag rest)
    (trim : Trims tag name) :
    parse s =
      if name.isEmpty then .error (.malformed s .missingTag)
      else
        match Tag.ofText? (String.ofList name) with
        | none => .error (.unknownTag (String.ofList name))
        | some tag =>
          match readRest rest with
          | .error fault => .error (.malformed s fault)
          | .ok (pairs, value) => .ok ⟨tag, pairs, value⟩ := by
  rewrite [parse, before_of_divides cut, fromFirst_of_divides cut, trimChars_of_trims trim]
  rfl

theorem isEmpty_tag_text (tag : Tag) : tag.text.toList.isEmpty = false := by
  cases tag <;> decide

theorem parse_of_tag {s : String} {tag : List Char} {known : Tag}
    (cut : Divides endsTag s.toList tag rest) (trim : Trims tag known.text.toList) :
    parse s =
      match readRest rest with
      | .error fault => .error (.malformed s fault)
      | .ok (pairs, value) => .ok ⟨known, pairs, value⟩ := by
  rw [parse_of_trims cut trim, isEmpty_tag_text, String.ofList_toList, Tag.ofText?_text]
  rfl

/-- Every text has one of three beginnings: a blank one, an unknown tag or a tag. -/
theorem tag_shape (tag : List Char) :
    Trims tag [] ∨ (∃ name, Trims tag name ∧ name ≠ [] ∧ ∀ known : Tag, known.text.toList ≠ name) ∨
      ∃ known : Tag, Trims tag known.text.toList := by
  have trim := trims_trimChars tag
  by_cases hblank : trimChars tag = []
  · exact .inl (hblank ▸ trim)
  · by_cases hknown : ∃ known : Tag, known.text.toList = trimChars tag
    · obtain ⟨known, hname⟩ := hknown
      exact .inr (.inr ⟨known, hname ▸ trim⟩)
    · exact .inr (.inl ⟨trimChars tag, trim, hblank, fun known h => hknown ⟨known, h⟩⟩)

theorem blank_of_trims_nil {tag : List Char} (h : Trims tag []) : ∀ c ∈ tag, isBlank c = true := by
  rw [← List.all_eq_true, ← trimChars_eq_nil_iff]
  exact trimChars_of_trims h

theorem divides_endsTag {tag : List Char} (free : ∀ c ∈ tag, c ≠ '[' ∧ c ≠ '=')
    (stop : ∀ c ∈ rest.head?, endsTag c = true) : Divides endsTag (tag ++ rest) tag rest where
  whole := rfl
  free := by
    intro c hc
    simp [endsTag, free c hc]
  stop := stop

theorem parse_of_blank {s : String} {tag : List Char} (cut : Divides endsTag s.toList tag rest)
    (trim : Trims tag []) : parse s = .error (.malformed s .missingTag) := by
  rw [parse_of_trims cut trim]
  rfl

theorem parse_of_unknown {s : String} {tag name : List Char}
    (cut : Divides endsTag s.toList tag rest) (trim : Trims tag name) (hne : name ≠ [])
    (unknown : ∀ known : Tag, known.text.toList ≠ name) :
    parse s = .error (.unknownTag (String.ofList name)) := by
  have hempty : name.isEmpty = false := by simpa using hne
  rw [parse_of_trims cut trim, hempty, ofText?_tag_eq_none_iff.2 unknown]
  rfl

theorem endsTag_head_of_written {written value : List Char} {text : String}
    (hlist : WrittenList written pairs) (hvalue : WrittenValue value text) :
    ∀ c ∈ (written ++ value).head?, endsTag c = true := by
  intro c hc
  cases hlist with
  | absent =>
    cases hvalue with
    | absent => cases hc
    | given => cases hc; rfl
  | bracketed => cases hc; rfl

theorem parse_of_written {s : String} {argument : Argument} (h : Written s.toList argument) :
    parse s = .ok argument := by
  obtain ⟨tag, written, value, hs, free, trim, hlist, hvalue⟩ := h
  have cut : Divides endsTag s.toList tag (written ++ value) := by
    rw [hs, List.append_assoc]
    exact divides_endsTag free (endsTag_head_of_written hlist hvalue)
  rw [parse_of_tag cut trim, readRest_eq_ok_iff.2 ⟨written, value, rfl, hlist, hvalue⟩]

theorem written_of_parse {s : String} {argument : Argument} (h : parse s = .ok argument) :
    Written s.toList argument := by
  have cut := divides_before_fromFirst endsTag s.toList
  rcases tag_shape (before endsTag s.toList) with trim | ⟨name, trim, hne, unknown⟩ | ⟨known, trim⟩
  · rw [parse_of_blank cut trim] at h
    cases h
  · rw [parse_of_unknown cut trim hne unknown] at h
    cases h
  · rw [parse_of_tag cut trim] at h
    cases hr : readRest (fromFirst endsTag s.toList) with
    | error fault =>
      rw [hr] at h
      cases h
    | ok found =>
      obtain ⟨pairs, value⟩ := found
      rw [hr] at h
      cases h
      obtain ⟨written, text, hrest, hlist, hvalue⟩ := readRest_eq_ok_iff.1 hr
      refine ⟨before endsTag s.toList, written, text, ?_, ?_, trim, hlist, hvalue⟩
      · rw [List.append_assoc, ← hrest]
        exact cut.whole
      · intro c hc
        simpa [endsTag] using cut.free c hc

theorem faulty_of_parse {s : String} {e : ArgumentError} (h : parse s = .error e) :
    Faulty s e := by
  have cut := divides_before_fromFirst endsTag s.toList
  rcases tag_shape (before endsTag s.toList) with trim | ⟨name, trim, hne, unknown⟩ | ⟨known, trim⟩
  · rw [parse_of_blank cut trim] at h
    cases h
    exact .missingTag cut (blank_of_trims_nil trim)
  · rw [parse_of_unknown cut trim hne unknown] at h
    cases h
    exact .unknownTag cut trim unknown
  · rw [parse_of_tag cut trim] at h
    cases hr : readRest (fromFirst endsTag s.toList) with
    | ok found =>
      rw [hr] at h
      cases h
    | error fault =>
      rw [hr] at h
      cases h
      exact .rest cut (faultyRest_of_readRest cut.stop hr)

/-- A faulty text is refused, for that fault or one that comes before it. -/
theorem parse_of_faulty {s : String} {e : ArgumentError} (h : Faulty s e) :
    ∃ first, parse s = .error first ∧ (first.rank < e.rank ∨ first = e) := by
  cases h with
  | missingTag cut blank =>
    have trim : Trims _ [] := trimChars_eq_iff.1 (trimChars_eq_nil_iff.2 (List.all_eq_true.2 blank))
    exact ⟨_, parse_of_blank cut trim, .inr rfl⟩
  | @unknownTag tag rest name cut trim unknown =>
    by_cases hne : name = []
    · subst hne
      exact ⟨_, parse_of_blank cut trim, .inl Nat.zero_lt_one⟩
    · exact ⟨_, parse_of_unknown cut trim hne unknown, .inr rfl⟩
  | @rest tag rest fault cut isFaulty =>
    have hlater : 1 < fault.rank := by
      cases isFaulty with
      | unterminatedList => exact Nat.lt_succ_self 1
      | badPiece closed holds gives isBad =>
        rw [rank_of_badPiece isBad]
        decide
      | trailingText => exact Nat.succ_lt_succ (Nat.zero_lt_succ 2)
    rcases tag_shape tag with trim | ⟨name, trim, hne, unknown⟩ | ⟨known, trim⟩
    · exact ⟨_, parse_of_blank cut trim, .inl (Nat.zero_lt_of_lt hlater)⟩
    · exact ⟨_, parse_of_unknown cut trim hne unknown, .inl hlater⟩
    · obtain ⟨first, hr, hfirst⟩ := readRest_of_faultyRest isFaulty
      refine ⟨.malformed s first, ?_, ?_⟩
      · rw [parse_of_tag cut trim, hr]
      · exact hfirst.imp id fun e => by rw [e]

theorem parse_exact (s : String) :
    (∀ argument, parse s = .ok argument ↔ Written s.toList argument) ∧
      ∀ e, parse s = .error e ↔ Faulty s e ∧ ∀ other, Faulty s other → e.rank ≤ other.rank := by
  refine ⟨fun argument => ⟨written_of_parse, parse_of_written⟩, fun e => ⟨?_, ?_⟩⟩
  · intro h
    refine ⟨faulty_of_parse h, ?_⟩
    intro other hother
    obtain ⟨first, hfirst, hrank⟩ := parse_of_faulty hother
    rw [h] at hfirst
    cases hfirst
    exact hrank.elim Nat.le_of_lt fun heq => Nat.le_of_eq (congrArg _ heq)
  · rintro ⟨hfaulty, hleast⟩
    obtain ⟨first, hfirst, hrank⟩ := parse_of_faulty hfaulty
    rcases hrank with hlt | rfl
    · have hle := hleast first (faulty_of_parse hfirst)
      exact absurd hlt (Nat.not_lt.2 hle)
    · exact hfirst

end Argument

end DetectionRule
