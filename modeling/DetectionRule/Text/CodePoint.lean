/-!
# Classes of characters given by code point ranges

A character class of the Unicode standard is a list of closed ranges of code points, in
increasing order. The classes themselves are in the modules named for them.
-/

namespace DetectionRule.Text

/-- Closed ranges of code points, first and last. -/
abbrev CodeRanges := List (Nat × Nat)

def CodeRanges.holds (ranges : CodeRanges) (c : Char) : Bool :=
  ranges.any fun r => decide (r.1 ≤ c.toNat) && decide (c.toNat ≤ r.2)

theorem CodeRanges.holds_iff {ranges : CodeRanges} {c : Char} :
    ranges.holds c = true ↔ ∃ r ∈ ranges, r.1 ≤ c.toNat ∧ c.toNat ≤ r.2 := by
  simp [holds]

end DetectionRule.Text
