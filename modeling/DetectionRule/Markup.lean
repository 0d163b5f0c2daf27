/-!
# Markup characters and their entities

Four characters have a meaning of their own in the rendered rule: `&`, `<`, `>` and `"`. Escaping
writes each as its entity and every other character as it is; `unescape` reads the four entities
back in one pass and leaves all other text alone. Escaping is section 11.2 of the specification.
Main statement: `unescape_escape`.
-/

namespace DetectionRule

/-- How texts go into the rendered rule: as they are, or with entities for markup characters
(`Escape`). -/
inductive TextMode
  | verbatim
  | escaped
deriving DecidableEq

namespace Markup

def isMarkup (c : Char) : Bool := c = '&' || c = '<' || c = '>' || c = '"'

/-- One of the four characters is in the text (`has_markup`). -/
def occursIn (s : String) : Bool := s.toList.any isMarkup

def escapeChar : Char → List Char
  | '&' => ['&', 'a', 'm', 'p', ';']
  | '<' => ['&', 'l', 't', ';']
  | '>' => ['&', 'g', 't', ';']
  | '"' => ['&', 'q', 'u', 'o', 't', ';']
  | c => [c]

def escapeChars (cs : List Char) : List Char := cs.flatMap escapeChar

/-- A text without markup characters is given back as it is, and any other is written anew character
by character (`escape_text`). -/
def escape (s : String) : String :=
  if occursIn s then String.ofList (escapeChars s.toList) else s

/-- Reads entities from left to right, never reading again what an entity gave. -/
def unescapeChars : List Char → List Char
  | '&' :: 'a' :: 'm' :: 'p' :: ';' :: cs => '&' :: unescapeChars cs
  | '&' :: 'l' :: 't' :: ';' :: cs => '<' :: unescapeChars cs
  | '&' :: 'g' :: 't' :: ';' :: cs => '>' :: unescapeChars cs
  | '&' :: 'q' :: 'u' :: 'o' :: 't' :: ';' :: cs => '"' :: unescapeChars cs
  | c :: cs => c :: unescapeChars cs
  | [] => []

def unescape (s : String) : String := String.ofList (unescapeChars s.toList)

theorem isMarkup_iff {c : Char} :
    isMarkup c = true ↔ c = '&' ∨ c = '<' ∨ c = '>' ∨ c = '"' := by
  simp [isMarkup, or_assoc]

theorem escapeChar_of_not_isMarkup {c : Char} (h : isMarkup c = false) : escapeChar c = [c] := by
  simp only [isMarkup, Bool.or_eq_false_iff, decide_eq_false_iff_not] at h
  unfold escapeChar
  split <;> simp_all

@[simp] theorem escapeChars_nil : escapeChars [] = [] := rfl

@[simp] theorem escapeChars_cons (c : Char) (cs : List Char) :
    escapeChars (c :: cs) = escapeChar c ++ escapeChars cs := rfl

@[simp] theorem escapeChars_append (cs ds : List Char) :
    escapeChars (cs ++ ds) = escapeChars cs ++ escapeChars ds := by
  simp [escapeChars]

theorem escapeChars_of_all_not_isMarkup {cs : List Char} (h : cs.any isMarkup = false) :
    escapeChars cs = cs := by
  induction cs with
  | nil => rfl
  | cons c cs ih =>
    simp only [List.any_cons, Bool.or_eq_false_iff] at h
    simp [escapeChar_of_not_isMarkup h.1, ih h.2]

/-- Whether or not the text has markup, its escaped form is the escaped form of its characters. -/
theorem toList_escape (s : String) : (escape s).toList = escapeChars s.toList := by
  unfold escape
  split
  · simp
  · next h => exact (escapeChars_of_all_not_isMarkup (by simpa [occursIn] using h)).symm

/-! ### Reading back -/

theorem unescapeChars_cons_of_ne {c : Char} (h : c ≠ '&') (cs : List Char) :
    unescapeChars (c :: cs) = c :: unescapeChars cs := by
  rw [unescapeChars] <;> simp_all

theorem unescapeChars_escapeChar_append (c : Char) (cs : List Char) :
    unescapeChars (escapeChar c ++ cs) = c :: unescapeChars cs := by
  by_cases hc : isMarkup c = true
  · rcases isMarkup_iff.1 hc with rfl | rfl | rfl | rfl <;> simp [escapeChar, unescapeChars]
  · have hc : isMarkup c = false := by simpa using hc
    rw [escapeChar_of_not_isMarkup hc, List.singleton_append, unescapeChars_cons_of_ne]
    rintro rfl
    exact absurd hc (by decide)

theorem unescapeChars_escapeChars_append (cs ds : List Char) :
    unescapeChars (escapeChars cs ++ ds) = cs ++ unescapeChars ds := by
  induction cs with
  | nil => rfl
  | cons c cs ih => simp [unescapeChars_escapeChar_append, ih]

theorem unescape_escape (s : String) : unescape (escape s) = s := by
  have h := unescapeChars_escapeChars_append s.toList []
  simp only [List.append_nil, unescapeChars] at h
  simp [unescape, toList_escape, h]

end Markup

def TextMode.text : TextMode → String → String
  | verbatim, s => s
  | escaped, s => Markup.escape s

end DetectionRule
