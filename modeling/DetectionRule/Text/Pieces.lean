/-!
# Cutting a text

A text is cut at the first character with a property, into the pieces between all occurrences of a
separator, or into lines. Pieces may be empty, and there is always one; a line is never empty, for
it holds the line feed that ends it.
-/

namespace DetectionRule.Text

def before (p : Char → Bool) (cs : List Char) : List Char := cs.takeWhile fun c => !p c

def fromFirst (p : Char → Bool) (cs : List Char) : List Char := cs.dropWhile fun c => !p c

def pieces (separator : Char) : List Char → List (List Char)
  | [] => [[]]
  | c :: cs =>
    if c = separator then [] :: pieces separator cs
    else
      match pieces separator cs with
      | [] => [[c]]
      | piece :: rest => (c :: piece) :: rest

/-- The lines, each with the line feed that ends it; the last may lack one. -/
def lines : List Char → List (List Char)
  | [] => []
  | c :: cs =>
    if c = '\n' then [c] :: lines cs
    else
      match lines cs with
      | [] => [[c]]
      | line :: rest => (c :: line) :: rest

theorem before_append_fromFirst (p : Char → Bool) (cs : List Char) :
    before p cs ++ fromFirst p cs = cs := List.takeWhile_append_dropWhile

theorem not_of_mem_before {p : Char → Bool} {cs : List Char} {c : Char} (h : c ∈ before p cs) :
    p c = false := by
  simpa using List.all_eq_true.1 (List.all_takeWhile (l := cs)) c h

theorem pieces_ne_nil (separator : Char) (cs : List Char) : pieces separator cs ≠ [] := by
  cases cs with
  | nil => simp [pieces]
  | cons c cs =>
    unfold pieces
    split
    · simp
    · split <;> simp

theorem intercalate_pieces (separator : Char) (cs : List Char) :
    [separator].intercalate (pieces separator cs) = cs := by
  induction cs with
  | nil => rfl
  | cons c cs ih =>
    by_cases hc : c = separator
    · subst hc
      obtain ⟨piece, rest, h⟩ := List.exists_cons_of_ne_nil (pieces_ne_nil c cs)
      rw [h] at ih
      simpa [pieces, h, List.intercalate] using ih
    · obtain ⟨piece, rest, h⟩ := List.exists_cons_of_ne_nil (pieces_ne_nil separator cs)
      rw [h] at ih
      cases rest <;> simpa [pieces, hc, h, List.intercalate] using ih

theorem flatten_lines (cs : List Char) : (lines cs).flatten = cs := by
  induction cs with
  | nil => rfl
  | cons c cs ih =>
    unfold lines
    split
    · simp [ih]
    · split <;> simp_all

end DetectionRule.Text
