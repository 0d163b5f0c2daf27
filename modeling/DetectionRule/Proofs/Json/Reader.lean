import DetectionRule.Proofs.Json.Lexer

/-!
# Reading a JSON text

The reader takes the tokens of a text one at a time. It holds the arrays and objects that are still
open, innermost first, and what may come next. A text that the printer wrote is read as the value
that was written, so two values with one text are the same. Main statements: `read_pretty` and
`pretty_inj`.
-/

namespace DetectionRule.Json

/-- An open array or object, with what it holds so far; in an object the value of a name is due. -/
inductive Frame
  | array (items : List Json)
  | object (members : List (String × Json)) (name : String)

/-- What the reader waits for, under the frames that are open. -/
inductive Reader
  | value (frames : List Frame)
  | firstItem (frames : List Frame)
  | firstName (frames : List Frame)
  | name (members : List (String × Json)) (frames : List Frame)
  | colon (members : List (String × Json)) (name : String) (frames : List Frame)
  | closed (value : Json) (frames : List Frame)

namespace Reader

def start (frames : List Frame) : Token → Option Reader
  | .flag b => some (closed (.flag b) frames)
  | .number n => some (closed (.number n) frames)
  | .text s => some (closed (.text s) frames)
  | .openArray => some (firstItem frames)
  | .openObject => some (firstName frames)
  | _ => none

def step : Reader → Token → Option Reader
  | value frames, token => start frames token
  | firstItem frames, .closeArray => some (closed (.array []) frames)
  | firstItem frames, token => start (.array [] :: frames) token
  | firstName frames, .closeObject => some (closed (.object []) frames)
  | firstName frames, .text s => some (colon [] s frames)
  | name members frames, .text s => some (colon members s frames)
  | colon members s frames, .colon => some (value (.object members s :: frames))
  | closed item (.array items :: frames), .comma =>
    some (value (.array (items ++ [item]) :: frames))
  | closed item (.array items :: frames), .closeArray =>
    some (closed (.array (items ++ [item])) frames)
  | closed item (.object members s :: frames), .comma => some (name (members ++ [(s, item)]) frames)
  | closed item (.object members s :: frames), .closeObject =>
    some (closed (.object (members ++ [(s, item)])) frames)
  | _, _ => none

def finish : Reader → Option Json
  | closed item [] => some item
  | _ => none

end Reader

def parse (tokens : List Token) : Option Json :=
  (tokens.foldlM Reader.step (.value [])).bind Reader.finish

/-- The value of a whole JSON text. -/
def read (s : String) : Option Json := (lex s.toList).bind parse

theorem foldlM_firstItem (value : Json) (frames : List Frame) (after : List Token) :
    (value.tokens ++ after).foldlM Reader.step (.firstItem frames)
      = (value.tokens ++ after).foldlM Reader.step (.value (.array [] :: frames)) := by
  cases value with
  | flag b => rfl
  | number n => rfl
  | text s => rfl
  | array items => cases items <;> rfl
  | object members => cases members <;> rfl

mutual

/-- The tokens of a value close it, whichever frames are open. -/
theorem foldlM_tokens (value : Json) (frames : List Frame) (after : List Token) :
    (value.tokens ++ after).foldlM Reader.step (.value frames)
      = after.foldlM Reader.step (.closed value frames) :=
  match value with
  | flag b => rfl
  | number n => rfl
  | text s => rfl
  | array [] => rfl
  | array (item :: items) => by
    have hopen : ((array (item :: items)).tokens ++ after).foldlM Reader.step (.value frames)
        = (item.tokens ++ (itemTokens items ++ .closeArray :: after)).foldlM Reader.step
            (.firstItem frames) := by
      simp [tokens, Reader.step, Reader.start]
    rw [hopen, foldlM_firstItem, foldlM_tokens item, foldlM_itemTokens items, List.nil_append]
  | object [] => rfl
  | object ((name, item) :: members) => by
    have hopen : ((object ((name, item) :: members)).tokens ++ after).foldlM Reader.step
          (.value frames)
        = (item.tokens ++ (memberTokens members ++ .closeObject :: after)).foldlM Reader.step
            (.value (.object [] name :: frames)) := by
      simp [tokens, Reader.step, Reader.start]
    rw [hopen, foldlM_tokens item, foldlM_memberTokens members, List.nil_append]

theorem foldlM_itemTokens (items before : List Json) (last : Json) (frames : List Frame)
    (after : List Token) :
    (itemTokens items ++ .closeArray :: after).foldlM Reader.step
        (.closed last (.array before :: frames))
      = after.foldlM Reader.step (.closed (.array (before ++ last :: items)) frames) :=
  match items with
  | [] => by simp [itemTokens, Reader.step]
  | item :: items => by
    have hcomma : (itemTokens (item :: items) ++ .closeArray :: after).foldlM Reader.step
          (.closed last (.array before :: frames))
        = (item.tokens ++ (itemTokens items ++ .closeArray :: after)).foldlM Reader.step
            (.value (.array (before ++ [last]) :: frames)) := by
      simp [itemTokens, Reader.step]
    rw [hcomma, foldlM_tokens item, foldlM_itemTokens items, List.append_assoc,
      List.singleton_append]

theorem foldlM_memberTokens (members before : List (String × Json)) (name : String) (last : Json)
    (frames : List Frame) (after : List Token) :
    (memberTokens members ++ .closeObject :: after).foldlM Reader.step
        (.closed last (.object before name :: frames))
      = after.foldlM Reader.step (.closed (.object (before ++ (name, last) :: members)) frames) :=
  match members with
  | [] => by simp [memberTokens, Reader.step]
  | (other, item) :: members => by
    have hcomma : (memberTokens ((other, item) :: members) ++ .closeObject :: after).foldlM
          Reader.step (.closed last (.object before name :: frames))
        = (item.tokens ++ (memberTokens members ++ .closeObject :: after)).foldlM Reader.step
            (.value (.object (before ++ [(name, last)]) other :: frames)) := by
      simp [memberTokens, Reader.step]
    rw [hcomma, foldlM_tokens item, foldlM_memberTokens members, List.append_assoc,
      List.singleton_append]

end

theorem parse_tokens (value : Json) : parse value.tokens = some value := by
  have hclosed := foldlM_tokens value [] []
  rw [List.append_nil] at hclosed
  rw [parse, hclosed]
  rfl

/-! ### Written texts -/

theorem read_write (depth : Nat) (value : Json) (rest : String) (hends : EndsWord rest.toList)
    (hrest : lex rest.toList = some []) : read (value.write depth ++ rest) = some value := by
  have hlex := lex_write depth value hends hrest
  rw [List.append_nil] at hlex
  rw [read, String.toList_append, hlex]
  exact parse_tokens value

theorem read_pretty (value : Json) : read value.pretty = some value := by
  have hread := read_write 0 value "" endsWord_nil rfl
  rwa [String.append_empty] at hread

/-- The same with the line ended, as a program prints it. -/
theorem read_pretty_line (value : Json) : read (value.pretty ++ "\n") = some value :=
  read_write 0 value "\n" (endsWord_cons rfl []) rfl

-- a comma before the bracket, and a number with a leading zero
example : (read "[1,]").isNone = true := by decide

example : (read "01").isNone = true := by decide

theorem pretty_inj {value other : Json} : value.pretty = other.pretty ↔ value = other := by
  constructor
  · intro h
    have hread := read_pretty value
    rw [h, read_pretty other] at hread
    exact (Option.some.inj hread).symm
  · intro h
    rw [h]

end DetectionRule.Json
