/-! # Classes of characters

A class of characters is a list of closed ranges of code points. Membership is decided by scanning
the ranges, so a fact about all members of a class is a fact about finitely many ranges. -/

namespace Remittance.Text

/-- A class of characters, as closed ranges of code points. -/
structure CharClass where
  ranges : List (Nat × Nat)

namespace CharClass

/-- Whether the code point `n` lies in one of the ranges. -/
def covers (k : CharClass) (n : Nat) : Bool :=
  k.ranges.any fun r => decide (r.1 ≤ n) && decide (n ≤ r.2)

/-- Whether the character `c` belongs to the class. -/
def contains (k : CharClass) (c : Char) : Bool :=
  k.covers c.toNat

theorem covers_iff {k : CharClass} {n : Nat} :
    k.covers n = true ↔ ∃ r ∈ k.ranges, r.1 ≤ n ∧ n ≤ r.2 := by
  simp [covers]

end CharClass

end Remittance.Text
