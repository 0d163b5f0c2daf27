import DetectionRule.Text.DefaultIgnorable
import DetectionRule.Text.GraphemeExtend
import DetectionRule.Text.Printable

/-!
# Quoted text

A text is shown between double quotes, so that what cannot be seen can be read: control
characters with a short name, the quote and the backslash take a backslash, and a character that is
not printable, that leaves no mark or that would attach to the one before it is written as its code
point in lower-case hexadecimal. All other characters, the single quote among them, stand for
themselves.
-/

namespace DetectionRule.Text.Quoted

/-- The halfwidth voicing marks of katakana. They extend a grapheme, but are letters with a cell of
their own. -/
def isHalfwidthVoicing (c : Char) : Bool := c = '\uff9e' || c = '\uff9f'

def attaches (c : Char) : Bool := isGraphemeExtend c && !isHalfwidthVoicing c

/-- The character can be seen, and seen apart from its neighbours. -/
def isVisible (c : Char) : Bool := isPrintable c && !isDefaultIgnorable c && !attaches c

def codePoint (c : Char) : List Char :=
  '\\' :: 'u' :: '\x7b' :: (Nat.toDigits 16 c.toNat ++ ['\x7d'])

def encodeChar (c : Char) : List Char :=
  match c with
  | '\x00' => ['\\', '0']
  | '\t' => ['\\', 't']
  | '\n' => ['\\', 'n']
  | '\r' => ['\\', 'r']
  | '"' => ['\\', '"']
  | '\\' => ['\\', '\\']
  | c => if isVisible c then [c] else codePoint c

def encode (cs : List Char) : List Char := cs.flatMap encodeChar

end DetectionRule.Text.Quoted

namespace DetectionRule.Text

def quote (s : String) : String :=
  String.ofList ('"' :: (Quoted.encode s.toList ++ ['"']))

end DetectionRule.Text
