/-!
# Sets of code points given by ranges

The Unicode character database assigns a property to long stretches of
consecutive code points, so a property is kept here the way the database prints
it: as the list of its maximal ranges, both ends included.
-/

namespace NetworkSelection

/-- A set of code points: its maximal ranges in ascending order, ends included. -/
abbrev CodeRanges := List (Nat × Nat)

namespace CodeRanges

/-- Whether some range holds the code point of `c`. -/
def contains (ranges : CodeRanges) (c : Char) : Bool :=
  ranges.any fun range => range.1 ≤ c.toNat && c.toNat ≤ range.2

/-- A code point is in the set exactly when one of the ranges encloses it. -/
theorem contains_iff {ranges : CodeRanges} {c : Char} :
    ranges.contains c = true ↔ ∃ range ∈ ranges, range.1 ≤ c.toNat ∧ c.toNat ≤ range.2 := by
  simp [contains]

end CodeRanges

end NetworkSelection
