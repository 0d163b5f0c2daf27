import DetectionRule.Json.Basic
import DetectionRule.Text.Decimal

/-!
# JSON text

Values are written over several lines: each item and each member on a line of its own, two spaces
further in than the bracket that holds it; an array or object that holds nothing is written as two
brackets. In a text only the quote, the backslash and the characters below the space are escaped.
-/

namespace DetectionRule.Json

def encodeChar (c : Char) : List Char :=
  match c with
  | '"' => ['\\', '"']
  | '\\' => ['\\', '\\']
  | '\x08' => ['\\', 'b']
  | '\t' => ['\\', 't']
  | '\n' => ['\\', 'n']
  | '\x0c' => ['\\', 'f']
  | '\r' => ['\\', 'r']
  | c =>
    if c < ' ' then
      ['\\', 'u', '0', '0', Nat.digitChar (c.toNat / 16), Nat.digitChar (c.toNat % 16)]
    else [c]

def encodeChars (cs : List Char) : List Char := cs.flatMap encodeChar

def quoted (s : String) : String := String.ofList ('"' :: (encodeChars s.toList ++ ['"']))

/-- The end of a line and the indentation of the next, two spaces a level. -/
def newline (depth : Nat) : String := "\n" ++ String.ofList (List.replicate (2 * depth) ' ')

mutual

def write (depth : Nat) : Json → String
  | flag true => "true"
  | flag false => "false"
  | number n => Text.Decimal.integer n
  | text s => quoted s
  | array [] => "[]"
  | array (item :: items) =>
    "[" ++ newline (depth + 1) ++ item.write (depth + 1) ++ writeItems (depth + 1) items
      ++ newline depth ++ "]"
  | object [] => "\x7b\x7d"
  | object ((name, value) :: members) =>
    "\x7b" ++ newline (depth + 1) ++ quoted name ++ ": " ++ value.write (depth + 1)
      ++ writeMembers (depth + 1) members ++ newline depth ++ "\x7d"

def writeItems (depth : Nat) : List Json → String
  | [] => ""
  | item :: items => "," ++ newline depth ++ item.write depth ++ writeItems depth items

def writeMembers (depth : Nat) : List (String × Json) → String
  | [] => ""
  | (name, value) :: members =>
    "," ++ newline depth ++ quoted name ++ ": " ++ value.write depth ++ writeMembers depth members

end

/-- The text of a value (`to_pretty_json`). -/
def pretty (value : Json) : String := value.write 0

end DetectionRule.Json
