/-!
# Decimal integers within limits

Writing gives the shortest decimal text, with a sign only where the number is negative. Reading
takes an optional sign and ASCII digits, leading zeros included, and goes from left to right: the
first character at which the text can no longer be an integer within the limits names the fault.
-/

namespace DetectionRule.Text.Decimal

def natural (n : Nat) : String := String.ofList (Nat.toDigits 10 n)

def integer : Int → String
  | .ofNat n => natural n
  | .negSucc n => "-" ++ natural (n + 1)

theorem toList_natural (n : Nat) : (natural n).toList = Nat.toDigits 10 n := by
  simp [natural]

theorem isDigit_of_mem_natural {n : Nat} {c : Char} (h : c ∈ (natural n).toList) :
    c.isDigit = true := by
  rw [toList_natural] at h
  exact Nat.isDigit_of_mem_toDigits (by decide) (by decide) h

theorem natural_inj {m n : Nat} : natural m = natural n ↔ m = n := by
  refine ⟨fun h => ?_, fun h => h ▸ rfl⟩
  have h' := congrArg (fun s => Nat.ofDigitChars 10 s.toList 0) h
  simpa [natural] using h'

theorem integer_eq_repr (n : Int) : integer n = n.repr := by
  cases n <;> rfl

inductive Fault
  | noDigits
  | invalidDigit
  | tooLarge
  | tooSmall
deriving DecidableEq

def Fault.message : Fault → String
  | noDigits => "cannot parse integer from empty string"
  | invalidDigit => "invalid digit found in string"
  | tooLarge => "number too large to fit in target type"
  | tooSmall => "number too small to fit in target type"

def digit? (c : Char) : Option Nat :=
  if c.isDigit then some (c.toNat - '0'.toNat) else none

/-- Reads digits after those that gave `value`; `beyond` is the fault of passing `limit`. -/
def readDigits (limit : Nat) (beyond : Fault) (value : Nat) : List Char → Except Fault Nat
  | [] => .ok value
  | c :: cs =>
    match digit? c with
    | none => .error .invalidDigit
    | some d =>
      if value * 10 + d ≤ limit then readDigits limit beyond (value * 10 + d) cs
      else .error beyond

def readNumber (limit : Nat) (beyond : Fault) : List Char → Except Fault Nat
  | [] => .error .invalidDigit
  | cs => readDigits limit beyond 0 cs

def maxUnsigned : Nat := 0xffffffffffffffff

/-- The largest signed 64-bit number; the smallest is one further from zero. -/
def maxSigned : Nat := 0x7fffffffffffffff

def readUnsigned : List Char → Except Fault Nat
  | [] => .error .noDigits
  | '+' :: cs => readNumber maxUnsigned .tooLarge cs
  | cs => readNumber maxUnsigned .tooLarge cs

def readSigned : List Char → Except Fault Int
  | [] => .error .noDigits
  | '-' :: cs => (readNumber (maxSigned + 1) .tooSmall cs).map fun n => -(n : Int)
  | '+' :: cs => (readNumber maxSigned .tooLarge cs).map Int.ofNat
  | cs => (readNumber maxSigned .tooLarge cs).map Int.ofNat

end DetectionRule.Text.Decimal
