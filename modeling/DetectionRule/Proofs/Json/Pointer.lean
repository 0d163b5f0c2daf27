import DetectionRule.Json.Basic
import DetectionRule.Proofs.Json.Lexer
import DetectionRule.Proofs.Text.Cutting

/-!
# Pointers into a JSON value

A pointer is a text of steps, each behind a slash; the empty pointer has none. In a step `~1` stands
for a slash and `~0` for a tilde. A step leads from an object to the member of that name, and from
an array to the item at that index, which has no leading zeros. Main statement: steps that need no
escape lead where their pointer leads (`at?_join`).
-/

namespace DetectionRule.Json

namespace Pointer

/-- Reads the two escapes from left to right, never reading again what one gave. -/
def unescapeChars : List Char → List Char
  | '~' :: '1' :: cs => '/' :: unescapeChars cs
  | '~' :: '0' :: cs => '~' :: unescapeChars cs
  | c :: cs => c :: unescapeChars cs
  | [] => []

def steps? (pointer : String) : Option (List String) :=
  match pointer.toList with
  | [] => some []
  | '/' :: cs => some ((Text.pieces '/' cs).map fun step => String.ofList (unescapeChars step))
  | _ => none

theorem unescapeChars_of_not_mem {cs : List Char} (h : '~' ∉ cs) : unescapeChars cs = cs := by
  induction cs with
  | nil => rfl
  | cons c cs ih =>
    rw [List.mem_cons, not_or] at h
    have hc : c ≠ '~' := Ne.symm h.1
    rw [unescapeChars, ih h.2]
    · rintro _ rfl
      exact absurd rfl hc
    · rintro _ rfl
      exact absurd rfl hc

theorem steps?_join {steps : List String}
    (h : ∀ step ∈ steps, '/' ∉ step.toList ∧ '~' ∉ step.toList) :
    steps? (String.join (steps.map fun step => "/" ++ step)) = some steps := by
  have hpieces : Text.pieces '/' (steps.flatMap fun step => '/' :: step.toList)
      = [] :: steps.map String.toList :=
    Text.pieces_flatMap_cons fun step hs => (h step hs).1
  have hwhole : (String.join (steps.map fun step => "/" ++ step)).toList
      = steps.flatMap fun step => '/' :: step.toList := by
    rw [String.toList_join, List.flatMap_map]
    simp
  unfold steps?
  rw [hwhole]
  cases steps with
  | nil => rfl
  | cons first others =>
    rw [List.flatMap_cons, List.cons_append, Text.pieces, if_pos rfl, List.cons.injEq] at hpieces
    rw [List.flatMap_cons, List.cons_append]
    simp only [hpieces.2, List.map_map, Option.some.injEq]
    rw [List.map_congr_left, List.map_id]
    intro step hs
    simp [unescapeChars_of_not_mem (h step hs).2]

end Pointer

/-- The value one step further in. -/
def child? (step : String) : Json → Option Json
  | object members => members.lookup step
  | array items => (Token.natural? step.toList).bind fun i => items[i]?
  | _ => none

def descend? (value : Json) (steps : List String) : Option Json :=
  steps.foldlM (fun value step => value.child? step) value

def at? (value : Json) (pointer : String) : Option Json :=
  (Pointer.steps? pointer).bind value.descend?

variable {value inner : Json} {step : String} {steps : List String}

@[simp] theorem descend?_nil (value : Json) : value.descend? [] = some value := rfl

theorem descend?_cons (h : value.child? step = some inner) :
    value.descend? (step :: steps) = inner.descend? steps := by
  rw [descend?, List.foldlM_cons, h]
  rfl

theorem descend?_singleton (value : Json) (step : String) :
    value.descend? [step] = value.child? step := by
  simp [descend?]

theorem child?_array (items : List Json) (i : Nat) :
    (array items).child? (Text.Decimal.natural i) = items[i]? := by
  rw [child?, Text.Decimal.toList_natural, Token.natural?_toDigits]
  rfl

theorem at?_join (value : Json) (h : ∀ step ∈ steps, '/' ∉ step.toList ∧ '~' ∉ step.toList) :
    value.at? (String.join (steps.map fun step => "/" ++ step)) = value.descend? steps := by
  rw [at?, Pointer.steps?_join h]
  rfl

-- an index with a leading zero leads nowhere
example : ((object [("a", array [flag true])]).at? "/a/00").isNone = true := by decide

example : ((object [("a~/", array [flag true])]).at? "/a~0~1/0").isSome = true := by decide

end DetectionRule.Json
