import DetectionRule.Text.Blank
import DetectionRule.Text.Pieces
import Mathlib.Data.List.Forall2
import Mathlib.Data.List.TakeWhile

/-!
# How a text divides

A text divides in one way only into a beginning without some characters and a rest that is empty or
begins with one of them, into the pieces between the occurrences of a separator, and into blanks, a
middle with no blank at its ends, and blanks. Each of the three functions that cut a text computes
that division: `before_eq_iff`, `pieces_eq_iff`, `trimChars_eq_iff`.
-/

namespace DetectionRule.Text

/-- The text is a beginning without the characters, and a rest that is empty or starts with one. -/
structure Divides (p : Char → Bool) (cs head rest : List Char) : Prop where
  whole : cs = head ++ rest
  free : ∀ c ∈ head, p c = false
  stop : ∀ c ∈ rest.head?, p c = true

variable {p : Char → Bool} {cs ds head rest list : List Char} {c separator : Char}

theorem divides_before_fromFirst (p : Char → Bool) (cs : List Char) :
    Divides p cs (before p cs) (fromFirst p cs) where
  whole := (before_append_fromFirst p cs).symm
  free := fun _ hc => not_of_mem_before hc
  stop := by
    intro c hc
    have h := List.head?_dropWhile_not (fun c => !p c) cs
    have hd : (cs.dropWhile fun c => !p c).head? = some c := hc
    rw [hd] at h
    simpa using h

theorem before_of_divides (h : Divides p cs head rest) : before p cs = head := by
  obtain ⟨rfl, free, stop⟩ := h
  have hall : ∀ c ∈ head, (!p c) = true := by
    intro c hc
    rw [free c hc]
    rfl
  rw [before, List.takeWhile_append_of_pos hall]
  cases rest with
  | nil => simp
  | cons c cs =>
    have hc : p c = true := stop c rfl
    rw [List.takeWhile_cons_of_neg (by simp [hc]), List.append_nil]

theorem fromFirst_of_divides (h : Divides p cs head rest) : fromFirst p cs = rest := by
  have hb := before_of_divides h
  have hw := before_append_fromFirst p cs
  rw [hb] at hw
  exact List.append_cancel_left (hw.trans h.whole)

theorem before_eq_iff :
    before p cs = head ∧ fromFirst p cs = rest ↔ Divides p cs head rest := by
  constructor
  · rintro ⟨rfl, rfl⟩
    exact divides_before_fromFirst p cs
  · intro h
    exact ⟨before_of_divides h, fromFirst_of_divides h⟩

theorem fromFirst_eq_nil_iff : fromFirst p cs = [] ↔ ∀ c ∈ cs, p c = false := by
  rw [fromFirst, List.dropWhile_eq_nil_iff]
  simp

/-- A character that stands nowhere else in `head` divides the text where it follows `head`. -/
theorem divides_at (h : c ∉ head) (rest : List Char) :
    Divides (· = c) (head ++ c :: rest) head (c :: rest) where
  whole := rfl
  free := by
    intro d hd
    exact decide_eq_false fun e => h (e ▸ hd)
  stop := by simp

theorem fromFirst_eq_nil_iff_not_mem : fromFirst (· = c) cs = [] ↔ c ∉ cs := by
  rw [fromFirst_eq_nil_iff]
  constructor
  · intro h hm
    exact absurd (h c hm) (by simp)
  · intro h d hd
    exact decide_eq_false fun e => h (e ▸ hd)

/-! ### Between separators -/

/-- The pieces hold no separator and, joined by it, make the text. -/
structure IsCut (separator : Char) (cs : List Char) (ps : List (List Char)) : Prop where
  exists_piece : ps ≠ []
  free : ∀ piece ∈ ps, separator ∉ piece
  joined : [separator].intercalate ps = cs

theorem pieces_append {first : List Char} {others : List (List Char)} (h : separator ∉ head)
    (hp : pieces separator rest = first :: others) :
    pieces separator (head ++ rest) = (head ++ first) :: others := by
  induction head with
  | nil => exact hp
  | cons c cs ih =>
    have hc : c ≠ separator := fun e => h (e ▸ List.mem_cons_self)
    have hcs : separator ∉ cs := fun hm => h (List.mem_cons_of_mem _ hm)
    rw [List.cons_append, pieces, if_neg hc, ih hcs]
    rfl

theorem pieces_of_not_mem (h : separator ∉ cs) : pieces separator cs = [cs] := by
  have hp : pieces separator (cs ++ []) = [cs ++ []] := pieces_append h rfl
  rwa [List.append_nil] at hp

theorem pieces_append_cons (h : separator ∉ head) :
    pieces separator (head ++ separator :: rest) = head :: pieces separator rest := by
  have hs : pieces separator (separator :: rest) = [] :: pieces separator rest := by
    rw [pieces, if_pos rfl]
  rw [pieces_append h hs, List.append_nil]

theorem pieces_flatMap_cons {α : Type} {f : α → List Char} {as : List α}
    (h : ∀ a ∈ as, separator ∉ f a) :
    pieces separator (as.flatMap fun a => separator :: f a) = [] :: as.map f := by
  induction as with
  | nil => rfl
  | cons a as ih =>
    have hrest := ih fun b hb => h b (List.mem_cons_of_mem _ hb)
    have hfree : separator ∉ f a := h a List.mem_cons_self
    rw [List.flatMap_cons, List.cons_append, pieces, if_pos rfl, pieces_append hfree hrest,
      List.append_nil, List.map_cons]

theorem not_mem_of_mem_pieces {piece : List Char} (h : piece ∈ pieces separator cs) :
    separator ∉ piece := by
  induction cs generalizing piece with
  | nil =>
    simp only [pieces, List.mem_singleton] at h
    simp [h]
  | cons c cs ih =>
    by_cases hc : c = separator
    · rw [pieces, if_pos hc, List.mem_cons] at h
      rcases h with rfl | h
      · simp
      · exact ih h
    · obtain ⟨first, others, hp⟩ := List.exists_cons_of_ne_nil (pieces_ne_nil separator cs)
      rw [pieces, if_neg hc, hp, List.mem_cons] at h
      rw [hp] at ih
      rcases h with rfl | h
      · have hf := ih List.mem_cons_self
        simp [hf, Ne.symm hc]
      · exact ih (List.mem_cons_of_mem _ h)

theorem mem_of_mem_pieces {piece : List Char} (h : piece ∈ pieces separator cs) (hc : c ∈ piece) :
    c ∈ cs := by
  induction cs generalizing piece with
  | nil =>
    rw [pieces, List.mem_singleton] at h
    exact h ▸ hc
  | cons d cs ih =>
    by_cases hd : d = separator
    · rw [pieces, if_pos hd, List.mem_cons] at h
      rcases h with rfl | h
      · cases hc
      · exact List.mem_cons_of_mem _ (ih h hc)
    · obtain ⟨first, others, hp⟩ := List.exists_cons_of_ne_nil (pieces_ne_nil separator cs)
      rw [pieces, if_neg hd, hp, List.mem_cons] at h
      rw [hp] at ih
      rcases h with rfl | h
      · rcases List.mem_cons.1 hc with rfl | hc
        · exact List.mem_cons_self
        · exact List.mem_cons_of_mem _ (ih List.mem_cons_self hc)
      · exact List.mem_cons_of_mem _ (ih (List.mem_cons_of_mem _ h) hc)

theorem pieces_intercalate {ps : List (List Char)} (hne : ps ≠ [])
    (free : ∀ piece ∈ ps, separator ∉ piece) :
    pieces separator ([separator].intercalate ps) = ps := by
  induction ps with
  | nil => exact absurd rfl hne
  | cons piece ps ih =>
    have hp : separator ∉ piece := free piece List.mem_cons_self
    cases ps with
    | nil => simpa [List.intercalate] using pieces_of_not_mem hp
    | cons next ps =>
      have hrest := ih (by simp) fun q hq => free q (List.mem_cons_of_mem _ hq)
      have hjoin : [separator].intercalate (piece :: next :: ps)
          = piece ++ separator :: [separator].intercalate (next :: ps) := by
        simp [List.intercalate]
      rw [hjoin, pieces_append_cons hp, hrest]

theorem not_mem_intercalate {ps : List (List Char)} (hc : c ≠ separator)
    (h : ∀ piece ∈ ps, c ∉ piece) : c ∉ [separator].intercalate ps := by
  induction ps with
  | nil => exact List.not_mem_nil
  | cons piece ps ih =>
    have hpiece : c ∉ piece := h piece List.mem_cons_self
    cases ps with
    | nil => simpa using hpiece
    | cons next ps =>
      have hrest := ih fun q hq => h q (List.mem_cons_of_mem _ hq)
      rw [List.intercalate_cons_cons]
      simp [hpiece, hc, hrest]

theorem pieces_eq_iff {ps : List (List Char)} :
    pieces separator cs = ps ↔ IsCut separator cs ps := by
  constructor
  · rintro rfl
    exact ⟨pieces_ne_nil separator cs, fun _ h => not_mem_of_mem_pieces h,
      intercalate_pieces separator cs⟩
  · rintro ⟨hne, free, rfl⟩
    exact pieces_intercalate hne free

theorem lines_append_cons (h : '\n' ∉ head) :
    lines (head ++ '\n' :: rest) = (head ++ ['\n']) :: lines rest := by
  induction head with
  | nil => rfl
  | cons c head ih =>
    rw [List.mem_cons, not_or] at h
    rw [List.cons_append, lines, if_neg (Ne.symm h.1), ih h.2]
    rfl

theorem lines_of_not_mem (h : '\n' ∉ cs) (hne : cs ≠ []) : lines cs = [cs] := by
  induction cs with
  | nil => exact absurd rfl hne
  | cons c cs ih =>
    rw [List.mem_cons, not_or] at h
    rw [lines, if_neg (Ne.symm h.1)]
    cases cs with
    | nil => rfl
    | cons next cs => rw [ih h.2 (by simp)]

/-! ### Blanks at the ends -/

/-- The second text is the first without the blanks at its two ends. -/
structure Trims (cs ds : List Char) : Prop where
  surround : ∃ left right, cs = left ++ ds ++ right ∧
    (∀ c ∈ left, isBlank c = true) ∧ ∀ c ∈ right, isBlank c = true
  first : ∀ c ∈ ds.head?, isBlank c = false
  last : ∀ c ∈ ds.getLast?, isBlank c = false

theorem first_dropWhile_isBlank (cs : List Char) :
    ∀ c ∈ (cs.dropWhile isBlank).head?, isBlank c = false := by
  intro c hc
  have h := List.head?_dropWhile_not isBlank cs
  have hd : (cs.dropWhile isBlank).head? = some c := hc
  rw [hd] at h
  simpa using h

theorem trims_trimChars (cs : List Char) : Trims cs (trimChars cs) := by
  have hfront : cs.takeWhile isBlank ++ cs.dropWhile isBlank = cs :=
    List.takeWhile_append_dropWhile
  have hback : trimChars cs ++ ((cs.dropWhile isBlank).reverse.takeWhile isBlank).reverse
      = cs.dropWhile isBlank := by
    rw [trimChars, ← List.reverse_append, List.takeWhile_append_dropWhile, List.reverse_reverse]
  refine ⟨⟨cs.takeWhile isBlank, ((cs.dropWhile isBlank).reverse.takeWhile isBlank).reverse,
    ?_, ?_, ?_⟩, ?_, ?_⟩
  · rw [List.append_assoc, hback, hfront]
  · exact fun c hc => List.mem_takeWhile_imp hc
  · exact fun c hc => List.mem_takeWhile_imp (List.mem_reverse.1 hc)
  · -- a middle that is not empty starts where the text without its front blanks does
    intro c hc
    apply first_dropWhile_isBlank cs
    rw [← hback, List.head?_append, Option.mem_def.1 hc]
    rfl
  · intro c hc
    rw [trimChars, List.getLast?_reverse] at hc
    exact first_dropWhile_isBlank _ c hc

theorem dropWhile_isBlank_append {left middle : List Char}
    (hleft : ∀ c ∈ left, isBlank c = true) (hm : ∀ c ∈ middle.head?, isBlank c = false) :
    (left ++ middle).dropWhile isBlank = middle := by
  rw [List.dropWhile_append_of_pos hleft]
  cases middle with
  | nil => rfl
  | cons c cs =>
    have hc : ¬isBlank c = true := by simp [hm c rfl]
    exact List.dropWhile_cons_of_neg hc

theorem trimChars_of_trims (h : Trims cs ds) : trimChars cs = ds := by
  obtain ⟨⟨left, right, rfl, hleft, hright⟩, first, last⟩ := h
  cases ds with
  | nil =>
    rw [trimChars_eq_nil_iff, List.all_eq_true]
    intro c hc
    rw [List.append_nil, List.mem_append] at hc
    exact hc.elim (hleft c) (hright c)
  | cons d ds =>
    have hfront : (left ++ (d :: ds ++ right)).dropWhile isBlank = d :: ds ++ right :=
      dropWhile_isBlank_append hleft fun c hc => first c hc
    have hback : (right.reverse ++ (d :: ds).reverse).dropWhile isBlank = (d :: ds).reverse :=
      dropWhile_isBlank_append (fun c hc => hright c (List.mem_reverse.1 hc)) fun c hc =>
        last c (List.head?_reverse ▸ hc)
    rw [trimChars, List.append_assoc, hfront, List.reverse_append, hback, List.reverse_reverse]

/-- The second text is the first with blanks at its two ends. -/
def Padded (cs ds : List Char) : Prop :=
  ∃ left right, ds = left ++ cs ++ right ∧
    (∀ c ∈ left, isBlank c = true) ∧ ∀ c ∈ right, isBlank c = true

theorem padded_of_all (left right : List Char) (whole : ds = left ++ cs ++ right)
    (hleft : left.all isBlank = true) (hright : right.all isBlank = true) : Padded cs ds :=
  ⟨left, right, whole, List.all_eq_true.1 hleft, List.all_eq_true.1 hright⟩

theorem padded_trimChars (cs : List Char) : Padded (trimChars cs) cs :=
  (trims_trimChars cs).surround

theorem trims_of_padded {es : List Char} (h : Padded cs ds) (trim : Trims cs es) : Trims ds es := by
  obtain ⟨left, right, rfl, hleft, hright⟩ := h
  obtain ⟨⟨front, back, rfl, hfront, hback⟩, first, last⟩ := trim
  refine ⟨⟨left ++ front, back ++ right, by simp, ?_, ?_⟩, first, last⟩
  · exact fun c hc => (List.mem_append.1 hc).elim (hleft c) (hfront c)
  · exact fun c hc => (List.mem_append.1 hc).elim (hback c) (hright c)

theorem trimChars_of_padded (h : Padded cs ds) : trimChars ds = trimChars cs :=
  trimChars_of_trims (trims_of_padded h (trims_trimChars cs))

theorem mem_iff_of_padded (h : Padded cs ds) (hc : isBlank c = false) : c ∈ ds ↔ c ∈ cs := by
  obtain ⟨left, right, rfl, hleft, hright⟩ := h
  have hl : c ∉ left := fun hm => by simp [hleft c hm] at hc
  have hr : c ∉ right := fun hm => by simp [hright c hm] at hc
  simp [hl, hr]

theorem trimChars_eq_iff : trimChars cs = ds ↔ Trims cs ds :=
  ⟨fun h => h ▸ trims_trimChars cs, trimChars_of_trims⟩

end DetectionRule.Text
