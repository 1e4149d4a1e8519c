/-! # Sets of characters as lists of intervals

The character classes of the Unicode standard are given as intervals of code points. -/

namespace Interaction

/-- Intervals of code points, both ends included. -/
abbrev Intervals := List (Nat × Nat)

namespace Intervals

/-- Some interval holds the code point of `c`. -/
def contains (is : Intervals) (c : Char) : Bool :=
  is.any fun i => i.1 ≤ c.toNat && c.toNat ≤ i.2

theorem contains_iff {is : Intervals} {c : Char} :
    is.contains c = true ↔ ∃ i ∈ is, i.1 ≤ c.toNat ∧ c.toNat ≤ i.2 := by
  simp [contains]

end Intervals
end Interaction
